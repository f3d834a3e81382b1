import Mathlib.Data.List.Nodup
import Mathlib.Data.List.Infix
import ConsoleHarness.Bench.Registry

/-! # What registrations leave behind

A callback that runs takes back what its pause registered elsewhere, so in an orderly registry a
pause that is over is called by nothing any more but the exit, and those callbacks look before they
resolve (`Registry.Orderly`).  From this follows what any stimulus does: it resolves those it calls,
once each, and leaves everybody else's registrations alone (`Registry.Orderly.hear_eq`).

`Registry.Releases` says of two moments that every pause registered between them is over and has
left nothing behind.
-/

namespace ConsoleHarness

/-- Whether a pause of that number is called by a stimulus. -/
def Bench.Wait.heeds (w : Bench.Wait) (timed : Bool) (pause : Nat) : Stimulus → Bool
  | .output => w.output
  | .exit => w.exit
  | .abort => w.abort
  | .timer other => timed && other = pause

namespace Registry

/-- The pauses on whose behalf a stimulus calls, in turn. -/
def called (r : Registry) : Stimulus → List Nat
  | .output => r.waiters.map (·.pause)
  | .exit => r.exitReactions.map (·.pause)
  | .abort => r.abortListeners.map (·.pause)
  | .timer pause => (r.timers.map (·.1.pause)).filter (· = pause)

/-- The registry once some pauses are over. -/
def settle (r : Registry) (pauses : List Nat) : Registry :=
  { r with
    timers := r.timers.filter (·.1.pause ∉ pauses)
    waiters := r.waiters.filter (·.pause ∉ pauses)
    abortListeners := r.abortListeners.filter (·.pause ∉ pauses)
    resolved := r.resolved ++ pauses }

/-- No pause has been resolved twice, each is called at most once by anything, and what is over is
called by the exit only, to no effect. -/
structure Orderly (r : Registry) : Prop where
  pending : ∀ s, s ≠ .exit → ∀ n ∈ r.called s, n ∉ r.resolved
  apart : ∀ s, (r.called s).Nodup
  guarded : ∀ callback ∈ r.exitReactions, callback.guarded = true
  once : r.resolved.Nodup
  issued : ∀ s, ∀ n ∈ r.called s, n < r.nextPause
  ended : ∀ n ∈ r.resolved, n < r.nextPause

variable {r : Registry} {n : Nat} {s : Stimulus}

theorem orderly_empty : Orderly {} where
  pending := by rintro (_ | _ | _ | _) <;> simp [called]
  apart := by rintro (_ | _ | _ | _) <;> simp [called]
  guarded := by simp
  once := List.nodup_nil
  issued := by rintro (_ | _ | _ | _) <;> simp [called]
  ended := by simp

/-! ## Settling -/

theorem resolve_eq (r : Registry) (pause : Nat) : r.resolve pause = r.settle [pause] := by
  simp [resolve, settle]

theorem settle_nil (r : Registry) : r.settle [] = r := by
  simp [settle]

theorem settle_settle (r : Registry) (first second : List Nat) :
    (r.settle first).settle second = r.settle (first ++ second) := by
  simp only [settle, List.filter_filter, List.append_assoc, List.mem_append, not_or,
    Bool.decide_and, Bool.and_comm]

theorem called_settle (r : Registry) (pauses : List Nat) (other : s ≠ .exit) :
    (r.settle pauses).called s = (r.called s).filter (· ∉ pauses) := by
  cases s with
  | output | abort => simp only [called, settle, List.filter_map]; rfl
  | exit => contradiction
  | timer pause =>
    simp only [called, settle]
    rw [List.filter_comm, List.filter_map (l := r.timers)]
    rfl

/-! ## Callbacks -/

theorem call_of_resolved {callback : Callback} (guarded : callback.guarded = true)
    (ended : callback.pause ∈ r.resolved) : r.call callback = r := by
  simp [call, guarded, ended]

theorem call_of_pending {callback : Callback} (pending : callback.pause ∉ r.resolved) :
    r.call callback = r.settle [callback.pause] := by
  simp [call, pending, resolve_eq]

/-- Callbacks of different pauses resolve those pauses that are not over.  For one that is over this
needs the guard. -/
theorem foldl_call {callbacks : List Callback}
    (safe : ∀ callback ∈ callbacks, callback.guarded = true ∨ callback.pause ∉ r.resolved)
    (apart : (callbacks.map (·.pause)).Nodup) :
    callbacks.foldl call r = r.settle ((callbacks.map (·.pause)).filter (· ∉ r.resolved)) := by
  induction callbacks generalizing r with
  | nil => exact r.settle_nil.symm
  | cons callback rest ih =>
    rw [List.map_cons, List.nodup_cons] at apart
    obtain ⟨fresh, apart⟩ := apart
    have safeRest := fun other member => safe other (List.mem_cons_of_mem callback member)
    rw [List.foldl_cons, List.map_cons]
    by_cases ended : callback.pause ∈ r.resolved
    · have guarded := (safe callback List.mem_cons_self).resolve_right (not_not.mpr ended)
      rw [call_of_resolved guarded ended, ih safeRest apart, List.filter_cons_of_neg (by simpa)]
    · -- Once this pause is over, the others are over exactly if they were before.
      have same : ∀ m ∈ rest.map (·.pause),
          m ∈ (r.settle [callback.pause]).resolved ↔ m ∈ r.resolved := by
        intro m member
        have differs : m ≠ callback.pause := fun equal => fresh (equal ▸ member)
        simp [settle, differs]
      rw [call_of_pending ended, ih _ apart, settle_settle, List.filter_cons_of_pos (by simpa)]
      · rw [List.singleton_append,
          List.filter_congr fun m member => decide_eq_decide.mpr (not_congr (same m member))]
      · intro other member
        rw [same other.pause (List.mem_map_of_mem member)]
        exact safeRest other member

theorem filter_erase_of_neg {α : Type} [BEq α] [LawfulBEq α] {p : α → Bool} {a : α}
    (dropped : p a = false) (l : List α) : (l.erase a).filter p = l.filter p := by
  induction l with
  | nil => rfl
  | cons b rest ih =>
    by_cases same : b = a
    · subst same
      rw [List.erase_cons_head, List.filter_cons_of_neg (by simp [dropped])]
    · rw [List.erase_cons_tail (by simpa using same), List.filter_cons, List.filter_cons, ih]

theorem callOnce_of_mem {listener : Callback} (listens : listener ∈ r.abortListeners)
    (pending : listener.pause ∉ r.resolved) : r.callOnce listener = r.settle [listener.pause] := by
  rw [callOnce, if_pos (by simpa using listens), call_of_pending (by exact pending)]
  -- That the listener was used up makes no difference: resolving its pause takes it away too.
  simp only [settle]
  rw [filter_erase_of_neg (by simp)]

theorem foldl_callOnce {listeners : List Callback}
    (listen : ∀ listener ∈ listeners, listener ∈ r.abortListeners)
    (pending : ∀ listener ∈ listeners, listener.pause ∉ r.resolved)
    (apart : (listeners.map (·.pause)).Nodup) :
    listeners.foldl callOnce r = r.settle (listeners.map (·.pause)) := by
  induction listeners generalizing r with
  | nil => exact r.settle_nil.symm
  | cons listener rest ih =>
    rw [List.map_cons, List.nodup_cons] at apart
    obtain ⟨fresh, apart⟩ := apart
    -- Nobody's turn is taken away by a listener of another pause.
    have differs : ∀ other ∈ rest, other.pause ≠ listener.pause :=
      fun other member equal => fresh (equal ▸ List.mem_map_of_mem member)
    rw [List.foldl_cons, callOnce_of_mem (listen _ List.mem_cons_self)
      (pending _ List.mem_cons_self), ih _ _ apart, settle_settle]
    · rfl
    · intro other member
      have here := listen other (List.mem_cons_of_mem _ member)
      simpa [settle, here] using differs other member
    · intro other member
      have unresolved := pending other (List.mem_cons_of_mem _ member)
      simpa [settle, unresolved] using differs other member

/-! ## Stimuli -/

/-- The pauses that a stimulus ends. -/
def ends (r : Registry) (s : Stimulus) : List Nat := (r.called s).filter (· ∉ r.resolved)

theorem Orderly.ends_eq (orderly : r.Orderly) (other : s ≠ .exit) : r.ends s = r.called s :=
  List.filter_eq_self.mpr fun n member => by simpa using orderly.pending s other n member

/-- A pause has one timer at most. -/
theorem Orderly.called_timer (orderly : r.Orderly) {timer : Callback × Millis}
    (member : timer ∈ r.timers) : r.called (.timer timer.1.pause) = [timer.1.pause] := by
  have listed : timer.1.pause ∈ r.called (.timer timer.1.pause) :=
    List.mem_filter.mpr ⟨List.mem_map_of_mem member, by simp⟩
  have all : ∀ n ∈ r.called (.timer timer.1.pause), n = timer.1.pause :=
    fun n here => by simpa using (List.mem_filter.mp here).2
  have short := orderly.apart (.timer timer.1.pause)
  rw [List.eq_replicate_of_mem all, List.nodup_replicate] at short
  rw [List.eq_replicate_of_mem all, Nat.le_antisymm short (List.length_pos_of_mem listed)]
  rfl

/-- In an orderly registry a stimulus resolves whom it calls, unless that is over, and does nothing
else.  All reactions to the exit are used up by it. -/
theorem Orderly.hear_eq (orderly : r.Orderly) (s : Stimulus) :
    r.hear s =
      { r.settle (r.ends s) with
        exitReactions := if s = .exit then [] else r.exitReactions } := by
  cases s with
  | output =>
    have pending := orderly.pending .output (by simp)
    rw [hear, wake, foldl_call _ (orderly.apart .output)]
    · rfl
    · exact fun waiter member => .inr (pending _ (List.mem_map_of_mem member))
  | exit =>
    rw [hear, answer, foldl_call _ (orderly.apart .exit)]
    · rfl
    · exact fun reaction member => .inl (orderly.guarded reaction member)
  | abort =>
    have pending := orderly.pending .abort (by simp)
    rw [hear, cancel, foldl_callOnce (fun _ member => member) _ (orderly.apart .abort),
      orderly.ends_eq (by simp)]
    · rfl
    · exact fun listener member => pending _ (List.mem_map_of_mem member)
  | timer pause =>
    rw [orderly.ends_eq (by simp), hear, expire]
    cases found : r.timers.find? (·.1.pause = pause) with
    | none =>
      have uncalled : r.called (.timer pause) = [] := by
        simpa [called, List.filter_map] using found
      rw [uncalled, settle_nil]
      rfl
    | some timer =>
      obtain rfl : timer.1.pause = pause := by simpa using List.find?_some found
      have called := orderly.called_timer (List.mem_of_find?_eq_some found)
      have pending := orderly.pending (.timer timer.1.pause) (by simp) timer.1.pause
        (by simp [called])
      dsimp only
      rw [called, call_of_pending (by exact pending)]
      simp only [settle]
      rw [filter_erase_of_neg (by simp)]
      simp

theorem resolved_hear (orderly : r.Orderly) (s : Stimulus) :
    (r.hear s).resolved = r.resolved ++ r.ends s := by
  rw [orderly.hear_eq]
  rfl

theorem called_hear (orderly : r.Orderly) {other : Stimulus} (calls : other ≠ .exit) :
    (r.hear s).called other = (r.called other).filter (· ∉ r.ends s) := by
  rw [orderly.hear_eq, ← called_settle _ _ calls]
  cases other with
  | exit => contradiction
  | _ => rfl

theorem sublist_called_hear (orderly : r.Orderly) (other : Stimulus) :
    ((r.hear s).called other).Sublist (r.called other) := by
  by_cases exit : other = .exit
  · subst exit
    rw [orderly.hear_eq]
    simp only [called]
    split
    · exact List.nil_sublist _
    · exact List.Sublist.refl _
  · rw [called_hear orderly exit]
    exact List.filter_sublist

theorem Orderly.hear (orderly : r.Orderly) (s : Stimulus) : (r.hear s).Orderly where
  pending other exit n member := by
    rw [called_hear orderly exit, List.mem_filter] at member
    rw [resolved_hear orderly, List.mem_append, not_or]
    exact ⟨orderly.pending other exit n member.1, by simpa using member.2⟩
  apart other := (orderly.apart other).sublist (sublist_called_hear orderly other)
  guarded callback member := by
    rw [orderly.hear_eq] at member
    dsimp only at member
    split at member
    · contradiction
    · exact orderly.guarded callback member
  once := by
    rw [resolved_hear orderly]
    refine orderly.once.append ((orderly.apart s).filter _) ?_
    intro n before now
    simpa [before] using (List.mem_filter.mp now).2
  issued other n member := by
    rw [orderly.hear_eq]
    exact orderly.issued other n ((sublist_called_hear orderly other).mem member)
  ended n member := by
    rw [resolved_hear orderly] at member
    rw [orderly.hear_eq]
    rcases List.mem_append.mp member with before | now
    · exact orderly.ended n before
    · exact orderly.issued s n (List.mem_filter.mp now).1

/-! ## Registering -/

section Enlist

variable {w : Bench.Wait} {due : Option Millis}

theorem called_enlist (r : Registry) (w : Bench.Wait) (due : Option Millis) (s : Stimulus) :
    (r.enlist w due).called s =
      r.called s ++ if w.heeds due.isSome r.nextPause s then [r.nextPause] else [] := by
  cases s with
  | output => cases output : w.output <;> simp [called, enlist, Bench.Wait.heeds, output]
  | exit => cases exit : w.exit <;> simp [called, enlist, Bench.Wait.heeds, exit]
  | abort => cases abort : w.abort <;> simp [called, enlist, Bench.Wait.heeds, abort]
  | timer pause =>
    cases due with
    | none => simp [called, enlist, Bench.Wait.heeds]
    | some moment =>
      by_cases own : r.nextPause = pause
      · simp [called, enlist, Bench.Wait.heeds, own]
      · simp [called, enlist, Bench.Wait.heeds, own, Ne.symm own]

theorem Orderly.fresh (orderly : r.Orderly) : r.nextPause ∉ r.resolved :=
  fun member => (orderly.ended _ member).false

theorem Orderly.uncalled (orderly : r.Orderly) (s : Stimulus) : r.nextPause ∉ r.called s :=
  fun member => (orderly.issued s _ member).false

theorem mem_called_enlist {n : Nat} (member : n ∈ (r.enlist w due).called s) :
    n ∈ r.called s ∨ n = r.nextPause := by
  rw [called_enlist, List.mem_append] at member
  refine member.imp_right fun new => ?_
  split at new
  · exact List.mem_singleton.mp new
  · contradiction

theorem Orderly.enlist (orderly : r.Orderly) (w : Bench.Wait) (due : Option Millis) :
    (r.enlist w due).Orderly where
  pending s exit n member := by
    rcases mem_called_enlist member with before | rfl
    · exact orderly.pending s exit n before
    · exact orderly.fresh
  apart s := by
    rw [called_enlist]
    split
    · refine (orderly.apart s).append (List.nodup_singleton _) ?_
      simpa using orderly.uncalled s
    · simpa using orderly.apart s
  guarded callback member := by
    simp only [Registry.enlist] at member
    split at member
    · rename_i exit
      rcases List.mem_append.mp member with before | new
      · exact orderly.guarded callback before
      · rw [List.mem_singleton.mp new]
        exact exit
    · exact orderly.guarded callback member
  once := orderly.once
  issued s n member := by
    rcases mem_called_enlist member with before | rfl
    · exact Nat.lt_succ_of_lt (orderly.issued s n before)
    · exact Nat.lt_succ_self _
  ended n member := Nat.lt_succ_of_lt (orderly.ended n member)

end Enlist

/-! ## One pause -/

/-- A pause is not over, and it is called by what it heeds. -/
structure Waits (r : Registry) (n : Nat) (heeds : Stimulus → Bool) : Prop where
  pending : n ∉ r.resolved
  called : ∀ s, n ∈ r.called s ↔ heeds s = true

section Waits

variable {heeds : Stimulus → Bool}

theorem waits_enlist (orderly : r.Orderly) (w : Bench.Wait) (due : Option Millis) :
    (r.enlist w due).Waits r.nextPause (w.heeds due.isSome r.nextPause) where
  pending := orderly.fresh
  called s := by
    have uncalled := orderly.uncalled s
    rw [called_enlist]
    split <;> simp_all

theorem Waits.mem_ends (waits : r.Waits n heeds) : n ∈ r.ends s ↔ heeds s = true := by
  rw [ends, List.mem_filter, waits.called]
  simp [waits.pending]

theorem Waits.resolved (waits : r.Waits n heeds) (orderly : r.Orderly) (heeded : heeds s = true) :
    n ∈ (r.hear s).resolved := by
  rw [resolved_hear orderly]
  exact List.mem_append_right _ (waits.mem_ends.mpr heeded)

theorem Waits.hear (waits : r.Waits n heeds) (orderly : r.Orderly) (unheeded : heeds s = false) :
    (r.hear s).Waits n heeds where
  pending := by
    rw [resolved_hear orderly, List.mem_append, waits.mem_ends]
    simp [waits.pending, unheeded]
  called other := by
    rw [← waits.called]
    by_cases exit : other = .exit
    · subst exit
      rw [orderly.hear_eq]
      simp only [Registry.called]
      split
      · -- The reactions are used up, but this pause has none.
        rename_i same
        have none := (waits.called .exit).not.mpr (by simp [← same, unheeded])
        simpa [Registry.called] using none
      · rfl
    · rw [called_hear orderly exit, List.mem_filter]
      simp [waits.mem_ends, unheeded]

theorem resolved_prefix_hear (orderly : r.Orderly) (stimuli : List Stimulus) :
    r.resolved <+: (stimuli.foldl Registry.hear r).resolved := by
  induction stimuli generalizing r with
  | nil => exact List.prefix_refl _
  | cons s rest ih =>
    refine List.IsPrefix.trans ?_ (ih (orderly.hear s))
    rw [resolved_hear orderly]
    exact List.prefix_append _ _

/-- A pause is over as soon as it has been called by something that it heeds, and waits until
then. -/
theorem Waits.foldl_hear (waits : r.Waits n heeds) (orderly : r.Orderly)
    (stimuli : List Stimulus) :
    if stimuli.any heeds then n ∈ (stimuli.foldl Registry.hear r).resolved
    else (stimuli.foldl Registry.hear r).Waits n heeds := by
  induction stimuli generalizing r with
  | nil => exact waits
  | cons s rest ih =>
    rw [List.any_cons, List.foldl_cons]
    cases heeded : heeds s with
    | true => exact (resolved_prefix_hear (orderly.hear s) rest).mem (waits.resolved orderly heeded)
    | false => exact ih (waits.hear orderly heeded) (orderly.hear s)

theorem Orderly.count_eq_one (orderly : r.Orderly) (ended : n ∈ r.resolved) :
    r.resolved.count n = 1 :=
  List.count_eq_one_of_mem orderly.once ended

end Waits

/-! ## What is left of pauses -/

/-- Every pause registered since `r` is over, resolved once.  Of what was registered before, `r'`
has kept what is not over, and holds nothing else, except reactions to the exit. -/
structure Releases (r r' : Registry) : Prop where
  orderly : r'.Orderly
  resolved : r.resolved <+: r'.resolved
  issued : r.nextPause ≤ r'.nextPause
  once : ∀ n, r.nextPause ≤ n → n < r'.nextPause → r'.resolved.count n = 1
  timers : r'.timers = r.timers.filter (·.1.pause ∉ r'.resolved)
  waiters : r'.waiters = r.waiters.filter (·.pause ∉ r'.resolved)
  abortListeners : r'.abortListeners = r.abortListeners.filter (·.pause ∉ r'.resolved)

section Pending

variable (orderly : r.Orderly)
include orderly

theorem Orderly.pending_timers : ∀ timer ∈ r.timers, timer.1.pause ∉ r.resolved := by
  intro timer member
  exact orderly.pending (.timer timer.1.pause) (by simp) _ (by simp [orderly.called_timer member])

theorem Orderly.pending_waiters : ∀ waiter ∈ r.waiters, waiter.pause ∉ r.resolved :=
  fun _ member => orderly.pending .output (by simp) _ (List.mem_map_of_mem member)

theorem Orderly.pending_listeners : ∀ listener ∈ r.abortListeners, listener.pause ∉ r.resolved :=
  fun _ member => orderly.pending .abort (by simp) _ (List.mem_map_of_mem member)

end Pending

section Filters

variable {α : Type} {pause : α → Nat} {early later : List Nat} {l : List α}

theorem filter_of_pending (pending : ∀ a ∈ l, pause a ∉ early) :
    l.filter (pause · ∉ early ++ later) = l.filter (pause · ∉ later) :=
  List.filter_congr fun a member => by simp [pending a member]

theorem filter_of_subset (more : early ⊆ later) :
    (l.filter (pause · ∉ early)).filter (pause · ∉ later) = l.filter (pause · ∉ later) := by
  rw [List.filter_filter]
  refine List.filter_congr fun a _ => ?_
  by_cases listed : pause a ∈ early
  · simp [listed, more listed]
  · simp [listed]

theorem filter_append_of_mem {new : List α} (listed : ∀ a ∈ new, pause a ∈ early) :
    (l ++ new).filter (pause · ∉ early) = l.filter (pause · ∉ early) := by
  have none : new.filter (pause · ∉ early) = [] :=
    List.filter_eq_nil_iff.mpr fun a member => by simpa using listed a member
  rw [List.filter_append, none, List.append_nil]

end Filters

namespace Releases

variable {r' r'' : Registry} {w : Bench.Wait} {due : Option Millis}

theorem refl (orderly : r.Orderly) : r.Releases r where
  orderly := orderly
  resolved := List.prefix_refl _
  issued := Nat.le_refl _
  once _ old new := absurd new (Nat.not_lt.mpr old)
  timers := (List.filter_eq_self.mpr (by simpa using orderly.pending_timers)).symm
  waiters := (List.filter_eq_self.mpr (by simpa using orderly.pending_waiters)).symm
  abortListeners := (List.filter_eq_self.mpr (by simpa using orderly.pending_listeners)).symm

theorem trans (first : r.Releases r') (second : r'.Releases r'') : r.Releases r'' where
  orderly := second.orderly
  resolved := first.resolved.trans second.resolved
  issued := first.issued.trans second.issued
  once n old new := by
    rcases Nat.lt_or_ge n r'.nextPause with early | late
    · have ended : n ∈ r'.resolved := List.count_pos_iff.mp (by rw [first.once n old early]; simp)
      exact second.orderly.count_eq_one (second.resolved.mem ended)
    · exact second.once n late new
  timers := by rw [second.timers, first.timers, filter_of_subset second.resolved.subset]
  waiters := by rw [second.waiters, first.waiters, filter_of_subset second.resolved.subset]
  abortListeners := by
    rw [second.abortListeners, first.abortListeners, filter_of_subset second.resolved.subset]

theorem hear (orderly : r.Orderly) (s : Stimulus) : r.Releases (r.hear s) where
  orderly := orderly.hear s
  resolved := resolved_prefix_hear orderly [s]
  issued := by rw [orderly.hear_eq]; exact Nat.le_refl _
  once n old new := by
    rw [orderly.hear_eq] at new
    exact absurd new (Nat.not_lt.mpr old)
  timers := by
    rw [resolved_hear orderly, filter_of_pending orderly.pending_timers, orderly.hear_eq]
    rfl
  waiters := by
    rw [resolved_hear orderly, filter_of_pending orderly.pending_waiters, orderly.hear_eq]
    rfl
  abortListeners := by
    rw [resolved_hear orderly, filter_of_pending orderly.pending_listeners, orderly.hear_eq]
    rfl

theorem foldl_hear (orderly : r.Orderly) (stimuli : List Stimulus) :
    r.Releases (stimuli.foldl Registry.hear r) := by
  induction stimuli generalizing r with
  | nil => exact .refl orderly
  | cons s rest ih => exact (hear orderly s).trans (ih (orderly.hear s))

/-- Once the pause that was registered last is over, nothing is left of it. -/
theorem of_enlist (releases : (r.enlist w due).Releases r') (ended : r.nextPause ∈ r'.resolved) :
    r.Releases r' where
  orderly := releases.orderly
  resolved := releases.resolved
  issued := (Nat.le_succ _).trans releases.issued
  once n old new := by
    rcases Nat.eq_or_lt_of_le old with rfl | younger
    · exact releases.orderly.count_eq_one ended
    · exact releases.once n younger new
  timers := by
    rw [releases.timers]
    refine filter_append_of_mem fun timer member => ?_
    obtain ⟨_, _, rfl⟩ := by simpa using member
    exact ended
  waiters := by
    rw [releases.waiters, enlist]
    dsimp only
    split
    · exact filter_append_of_mem (by simpa using ended)
    · rfl
  abortListeners := by
    rw [releases.abortListeners, enlist]
    dsimp only
    split
    · exact filter_append_of_mem (by simpa using ended)
    · rfl

end Releases

end Registry

end ConsoleHarness
