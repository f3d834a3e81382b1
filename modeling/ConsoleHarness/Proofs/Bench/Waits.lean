import ConsoleHarness.Proofs.Bench.Exchange
import ConsoleHarness.Proofs.Bench.Registry

/-! # Waits and their registrations

After each happening it is looked whether the pause of the program is over, and the registry is told
of the same happenings.  The two agree, because what can end a pause is what the pause has registered
for (`Bench.Happening.stirs`).  A pause therefore ends with its own resolution, be it by a happening
or by its timer, and has released by then what it took (`Bench.releases_pause`).
-/

namespace ConsoleHarness.Bench

variable {b c : Bench} {w : Wait}

/-! ## Happenings are heard -/

/-- Something has ended a pause if what it listens to is there. -/
theorem isSome_woken : (b.woken w).isSome = true ↔
    (w.exit = true ∧ b.wire.exit.isSome = true) ∨
      (w.output = true ∧ (b.session.pending ≠ [] ∨ b.session.outputClosed = true)) ∨
        (w.abort = true ∧ b.aborted = true) := by
  unfold woken
  split
  · simp_all
  · split
    · simp_all
    · split <;> simp_all

/-- A happening is one that nobody waits for, or it calls whoever waits for it, and ends those pauses
and no others. -/
theorem Happening.stirs (happening : Happening b c) :
    (c.registry = b.registry ∧ ∀ w, c.woken w = b.woken w) ∨
      ∃ s, c.registry = b.registry.hear s ∧ ∀ w timed n,
        (w.heeds timed n s = true → (c.woken w).isSome = true) ∧
          (w.heeds timed n s = false → c.woken w = b.woken w) := by
  cases happening with
  | aside same exit registry =>
    exact .inl ⟨registry, fun w => by simp only [woken, exit, same.session, same.aborted]⟩
  | arrive filled =>
    refine .inr ⟨.output, rfl, fun w _ _ => ⟨fun hears => ?_, fun (deaf : w.output = false) => ?_⟩⟩
    · exact isSome_woken.mpr (.inr (.inl ⟨hears, .inl (by simp [note, withSession])⟩))
    · simp [woken, deaf, note, withSession]
  | close opened =>
    refine .inr ⟨.output, rfl, fun w _ _ => ⟨fun hears => ?_, fun (deaf : w.output = false) => ?_⟩⟩
    · exact isSome_woken.mpr (.inr (.inl ⟨hears, .inr rfl⟩))
    · simp [woken, deaf, note, withSession]
  | leave first =>
    refine .inr ⟨.exit, rfl, fun w _ _ => ⟨fun hears => ?_, fun (deaf : w.exit = false) => ?_⟩⟩
    · exact isSome_woken.mpr (.inl ⟨hears, rfl⟩)
    · simp [woken, deaf, Bench.leave]
  | exit onWire unknown => exact .inl ⟨rfl, fun _ => rfl⟩
  | abort running =>
    refine .inr ⟨.abort, rfl, fun w _ _ => ⟨fun hears => ?_, fun (deaf : w.abort = false) => ?_⟩⟩
    · exact isSome_woken.mpr (.inr (.inr ⟨hears, rfl⟩))
    · simp [woken, deaf, note]
  | pause => exact .inl ⟨rfl, fun _ => rfl⟩

theorem Happening.releases (happening : Happening b c) (orderly : b.registry.Orderly) :
    b.registry.Releases c.registry := by
  rcases happening.stirs with ⟨same, _⟩ | ⟨s, heard, _⟩
  · rw [same]; exact .refl orderly
  · rw [heard]; exact .hear orderly s

theorem Happens.releases (happens : Happens b c) (orderly : b.registry.Orderly) :
    b.registry.Releases c.registry := by
  induction happens with
  | refl => exact .refl orderly
  | tail _ last ih => exact ih.trans (last.releases ih.orderly)

/-- A pause is over and something has ended it, or it waits and nothing has. -/
def Pausing (w : Wait) (n : Nat) (timed : Bool) (b : Bench) : Prop :=
  (n ∈ b.registry.resolved ∧ (b.woken w).isSome = true) ∨
    (b.registry.Waits n (w.heeds timed n) ∧ b.woken w = none)

section Pausing

variable {n : Nat} {timed : Bool}

theorem Pausing.resolved_iff (pausing : b.Pausing w n timed) :
    n ∈ b.registry.resolved ↔ (b.woken w).isSome = true := by
  rcases pausing with ⟨ended, woke⟩ | ⟨waits, asleep⟩
  · exact iff_of_true ended woke
  · exact iff_of_false waits.pending (by simp [asleep])

theorem Happening.pausing (happening : Happening b c) (orderly : b.registry.Orderly)
    (pausing : b.Pausing w n timed) : c.Pausing w n timed := by
  rcases happening.stirs with ⟨same, still⟩ | ⟨s, heard, stirs⟩
  · rw [Pausing, same, still]
    exact pausing
  · obtain ⟨ends, still⟩ := stirs w timed n
    rw [Pausing, heard]
    rcases pausing with ⟨ended, woke⟩ | ⟨waits, asleep⟩
    · have ended := (Registry.Releases.hear orderly s).resolved.mem ended
      cases heeded : w.heeds timed n s with
      | true => exact .inl ⟨ended, ends heeded⟩
      | false => exact .inl ⟨ended, by rw [still heeded]; exact woke⟩
    · cases heeded : w.heeds timed n s with
      | true => exact .inl ⟨waits.resolved orderly heeded, ends heeded⟩
      | false => exact .inr ⟨waits.hear orderly heeded, (still heeded).trans asleep⟩

theorem Happens.pausing (happens : Happens b c) (orderly : b.registry.Orderly)
    (pausing : b.Pausing w n timed) : c.Pausing w n timed := by
  induction happens with
  | refl => exact pausing
  | tail before last ih => exact last.pausing (Happens.releases before orderly).orderly ih

end Pausing

/-- As long as things happen by themselves, a pause is over in the registry exactly if the program is
told that something has ended it. -/
theorem resolved_iff_woken (orderly : b.registry.Orderly) (asleep : b.woken w = none)
    {due : Option Millis} (happens : Happens (b.register w due) c) :
    b.registry.nextPause ∈ c.registry.resolved ↔ (c.woken w).isSome = true :=
  (happens.pausing (orderly.enlist w due)
    (.inr ⟨Registry.waits_enlist orderly w due, asleep⟩)).resolved_iff

/-! ## Pauses -/

/-- The agenda of a timed pause runs until something has ended the pause, or its time is up. -/
theorem runAgenda_ends {due : Option Millis} (timed : due.isSome = true) (agenda : List Item)
    (b : Bench) :
    (runAgenda w due b agenda).2 = .timer ∨
      (runAgenda w due b agenda).1.woken w = some (runAgenda w due b agenda).2 := by
  induction agenda generalizing b with
  | nil =>
    obtain ⟨moment, rfl⟩ := Option.isSome_iff_exists.mp timed
    exact .inl rfl
  | cons item rest ih =>
    rw [runAgenda]
    cases due.filter (· < item.due) with
    | some moment => exact .inl rfl
    | none =>
      dsimp only
      cases woke : (b.step item rest).woken w with
      | some wake => exact .inr woke
      | none => exact ih _

theorem releases_expire (orderly : b.registry.Orderly) (n : Nat) (wake : Wake) :
    b.registry.Releases (b.expire n wake).registry := by
  unfold expire
  dsimp only
  split
  · exact .hear orderly _
  · exact .refl orderly

/-- The timer of a pause resolves it, unless it is over by then. -/
theorem Pausing.expire {n : Nat} (pausing : b.Pausing w n true) (orderly : b.registry.Orderly)
    {wake : Wake} (ended : wake = .timer ∨ b.woken w = some wake) :
    n ∈ (b.expire n wake).registry.resolved := by
  rcases pausing with ⟨resolved, _⟩ | ⟨waits, asleep⟩
  · exact (releases_expire orderly n wake).resolved.mem resolved
  · rcases ended with rfl | woke
    · exact waits.resolved (s := .timer n) orderly (by simp [Wait.heeds])
    · rw [asleep] at woke; contradiction

/-- A timed pause that nothing has ended before it began, except an exit, releases what it takes. -/
theorem releases_pause (orderly : b.registry.Orderly) (timed : w.timer.isSome = true)
    (asleep : (w.exit && b.wire.exit.isSome) = true ∨ b.woken w = none) :
    b.registry.Releases (b.pause w).1.registry := by
  obtain ⟨delay, timer⟩ := Option.isSome_iff_exists.mp timed
  simp only [pause, timer, Option.map_some]
  generalize b.clock + (delay : Millis) = moment
  have enlisted : (b.register w (some moment)).registry.Orderly := orderly.enlist w (some moment)
  have waits := Registry.waits_enlist orderly w (some moment)
  unfold pauseBody
  split
  · -- The exit is there already: the reaction to it is called at once.
    rename_i exited
    have heeded : w.heeds true b.registry.nextPause .exit = true :=
      (Bool.and_eq_true_iff.mp exited).1
    exact (Registry.Releases.hear enlisted .exit).of_enlist (waits.resolved enlisted heeded)
  · rename_i exitless
    have pausing : (b.register w (some moment)).Pausing w b.registry.nextPause true :=
      .inr ⟨waits, asleep.resolve_left exitless⟩
    have ready : Happens (b.register w (some moment)) (b.register w (some moment)).tick.notePause :=
      (happens_tick _).trans (happens_notePause _)
    -- Whichever way the pause ends, it has gone on from its registration by what happened.
    have released : ∀ {c : Bench} {wake : Wake}, Happens (b.register w (some moment)) c →
        (wake = .timer ∨ c.woken w = some wake) →
        b.registry.Releases (c.expire b.registry.nextPause wake).registry := by
      intro c wake happens ended
      have meanwhile := happens.releases enlisted
      exact (meanwhile.trans (releases_expire meanwhile.orderly _ wake)).of_enlist
        ((happens.pausing enlisted pausing).expire meanwhile.orderly ended)
    dsimp only
    split
    · rename_i wake woke
      exact released ready (.inr woke)
    · exact released (ready.trans (happens_runAgenda _ _ _ _)) (runAgenda_ends rfl _ _)

end ConsoleHarness.Bench
