import ConsoleHarness.Proofs.Bench.Clock
import ConsoleHarness.Proofs.Bench.Interrupt

/-! # How soon a cancellation is noticed

A pause that listens for the cancellation of the run ends with it, so a read and the pause behind a
line are over at the very moment of it.  The wait for a write to complete does not listen: a
cancellation during a write is noticed when the write is over, however long that takes.
-/

namespace ConsoleHarness.Bench

/-- If the run was cancelled, that is happening just now. -/
def Punctual (b : Bench) : Prop :=
  ∀ entry ∈ b.history, entry.event = .aborted → entry.moment = b.clock

section Pauses

variable {deeds : List Deed} {b c : Bench} {w : Wait}

theorem Heard.punctual (heard : b.Heard) (running : b.aborted = false) : b.Punctual :=
  fun entry member same => absurd same (heard.peaceful running entry member)

/-- What the program does takes no time. -/
theorem Punctual.aside (punctual : b.Punctual) (evolves : Evolves deeds b c)
    (indoors : .world ∉ deeds) : c.Punctual := by
  obtain ⟨news, grown, kinds⟩ := evolves.news
  intro entry member same
  rw [evolves.clock_eq indoors]
  rw [grown] at member
  rcases List.mem_append.mp member with old | new
  · exact punctual entry old same
  · have kind := kinds entry new
    rw [same] at kind
    exact absurd kind indoors

theorem punctual_step (heard : b.Heard) (running : b.aborted = false) (item : Item)
    (rest : List Item) : (b.step item rest).Punctual := by
  let m := (b.withAgenda rest).moveTo item.due
  have made : Passes m (b.step item rest) :=
    ((passes_make m item.move).trans (passes_tick _)).trans (passes_notePause _)
  have now : (b.step item rest).clock = m.clock := clock_step b item rest
  obtain ⟨news, grown, dated⟩ := made.news_between
  intro entry member same
  -- What is new lies between the moment of the item and now, and no time has passed.
  rw [grown] at member
  rcases List.mem_append.mp member with old | new
  · exact absurd same (heard.peaceful running entry old)
  · obtain ⟨-, after, before⟩ := dated entry new
    rw [now] at before ⊢
    exact le_antisymm before after

theorem running_of_woken (listens : w.abort = true) (asleep : b.woken w = none) :
    b.aborted = false := by
  cases cancelled : b.aborted with
  | false => rfl
  | true =>
    simp only [woken, listens, cancelled, Bool.and_self, if_true] at asleep
    split at asleep
    · contradiction
    · split at asleep <;> contradiction

theorem punctual_runAgenda (listens : w.abort = true) (due : Option Millis) (agenda : List Item)
    {b : Bench} (heard : b.Heard) (running : b.aborted = false) :
    (runAgenda w due b agenda).1.Punctual := by
  -- The run goes on at every item but the last, since a cancellation would have ended the pause.
  induction agenda generalizing b with
  | nil =>
    cases due with
    | none => exact Heard.punctual heard running
    | some moment => exact Heard.punctual heard running
  | cons item rest ih =>
    rw [runAgenda]
    cases due.filter (· < item.due) with
    | some moment => exact Heard.punctual heard running
    | none =>
      dsimp only
      cases woke : (b.step item rest).woken w with
      | some wake => exact punctual_step heard running item rest
      | none => exact ih ((passes_step b item rest).heard heard) (running_of_woken listens woke)

theorem punctual_pause (listens : w.abort = true) (heard : b.Heard) (running : b.aborted = false) :
    (b.pause w).1.Punctual := by
  have body (due : Option Millis) : ((b.register w due).pauseBody w due).1.Punctual := by
    let ready := (b.register w due).tick.notePause
    have begun : Passes (b.register w due) ready := (passes_tick _).trans (passes_notePause _)
    have heardToo : ready.Heard := begun.heard heard
    have runningToo : ready.aborted = false := (aborted_tick (b.register w due)).trans running
    simp only [pauseBody]
    split
    · exact Heard.punctual heard running
    · cases ready.woken w with
      | some wake => exact heardToo.punctual runningToo
      | none => exact punctual_runAgenda listens due ready.agenda heardToo runningToo
  exact body _

theorem punctual_waitForOutput (heard : b.Heard) (running : b.aborted = false) (limit : Millis) :
    (b.waitForOutput limit true).Punctual := by
  simp only [waitForOutput]
  split
  · exact heard.punctual running
  · exact punctual_pause rfl heard running

theorem settleDelay_of_aborted (cancelled : b.aborted = true) (span : Millis) :
    b.settleDelay span true = b := by
  rw [settleDelay, if_pos (by simp [cancelled])]

theorem punctual_settleDelay (heard : b.Heard) (running : b.aborted = false) (span : Millis) :
    (b.settleDelay span true).Punctual := by
  simp only [settleDelay]
  split
  · exact heard.punctual running
  · exact punctual_pause rfl heard running

end Pauses

/-! ## Reads -/

section Reads

variable {b c : Bench}

theorem punctual_readLoop (marker : List Char) (deadline : Millis) (window : List Char)
    (text : String) (heard : b.Heard) (punctual : b.Punctual) :
    (readLoop marker deadline true window text b).1.Punctual := by
  generalize listens : true = heeds
  fun_induction readLoop marker deadline heeds window text b with
  | case1 | case6 | case7 => exact punctual
  | case2 window text b _ chunk session taken count _ _ _ refused =>
    have kept := punctual.aside (evolves_recordMarked taken count) (by simp)
    rw [refused] at kept
    exact kept
  | case3 window text b _ chunk session taken count _ _ _ recorded =>
    have kept := punctual.aside (evolves_recordMarked taken count) (by simp)
    rw [recorded] at kept
    exact kept
  | case4 window text b _ chunk session taken =>
    exact punctual.aside (evolves_recordChunk taken) (by simp)
  | case5 window text b _ chunk session taken _ _ ih =>
    have recorded := evolves_recordChunk taken
    exact ih (recorded.heard heard) (punctual.aside recorded (by simp))
  | case8 window text b unheeded taken opened left ih =>
    subst listens
    have running : b.aborted = false := by simpa using unheeded
    exact ih ((passes_waitForOutput b _ true).heard heard)
      (punctual_waitForOutput heard running _)

theorem punctual_readUntil (heard : b.Heard) (punctual : b.Punctual) {marker : String}
    {limit : Millis} {result : Except Fault Reading}
    (done : b.readUntil marker limit true = (c, result)) : c.Punctual := by
  have read := punctual_readLoop marker.toList (b.clock + limit) [] "" heard punctual
  simp only [readUntil] at done
  split at done
  · obtain ⟨rfl, -⟩ := Prod.mk.inj done
    exact punctual
  · split at done <;> rename_i same <;> rw [same] at read
    all_goals
      obtain ⟨rfl, -⟩ := Prod.mk.inj done
      exact read

end Reads

/-! ## Scripts -/

/-- The run was cancelled while a text was being written, and when this write was over nothing
followed but talk. -/
inductive Delayed (b c : Bench) : Prop
  | write {n text} (reached : Evolves scriptDeeds b n) (running : n.aborted = false)
      (cancelled : (n.write text).1.aborted = true) (talk : Evolves [.tell] (n.write text).1 c) :
      Delayed b c

section Scripts

variable {script : Script} {logs : Bool} {b c d : Bench}

theorem Delayed.after (delayed : Delayed c d) (reached : Evolves scriptDeeds b c) :
    Delayed b d := by
  cases delayed with
  | write onward running cancelled talk =>
    exact .write (reached.trans onward) running cancelled talk

theorem Delayed.onward (delayed : Delayed b c) (talk : Evolves [.tell] c d) : Delayed b d := by
  cases delayed with
  | write reached running cancelled before =>
    exact .write reached running cancelled (before.trans talk)

/-- A line that is sent is answered for at the moment of a cancellation, unless that came during its
write. -/
theorem punctual_sendScripted (heard : b.Heard) (running : b.aborted = false) {line : String}
    {result : Except Fault SendReport}
    (done : b.sendScripted script line true logs = (c, result)) : c.Punctual ∨ Delayed b c := by
  have logged := evolves_log b logs .info s!"Sending '{line}' command..."
  have heardToo := logged.heard heard
  have runningToo := (logged.aborted_eq (by simp)).trans running
  simp only [sendScripted, sendLine] at done
  generalize b.log logs .info s!"Sending '{line}' command..." = m at logged heardToo runningToo done
  cases claimed : m.session.claimPrompt line with
  | error fault =>
    rw [claimed] at done
    obtain ⟨rfl, -⟩ := Prod.mk.inj done
    exact .inl (heardToo.punctual runningToo)
  | ok session =>
    obtain ⟨started, ready, rfl⟩ := claimPrompt_eq_ok claimed
    let n := m.withSession { m.session with promptReady := false }
    have claims : Evolves [.write] m n := .single (.claim started ready)
    have reached : Evolves scriptDeeds b n := (logged.mono (by simp)).trans (claims.mono (by simp))
    have heardWrite := (evolves_write n (line ++ "\n")).heard (reached.heard heard)
    have ends : c = (n.write (line ++ "\n")).1 ∨
        c = (n.write (line ++ "\n")).1.settleDelay script.settle true := by
      rw [claimed] at done
      dsimp only at done
      cases written : n.write (line ++ "\n") with
      | mk k answer =>
        rw [written] at done
        cases answer with
        | error failure => exact .inl (Prod.mk.inj done).1.symm
        | ok _ => exact .inr (Prod.mk.inj done).1.symm
    -- Whatever came of the write, a cancellation during it is noticed now, and no pause follows.
    cases cancelled : (n.write (line ++ "\n")).1.aborted with
    | true =>
      right
      rw [settleDelay_of_aborted cancelled, or_self] at ends
      rw [ends]
      exact .write reached runningToo cancelled .refl
    | false =>
      left
      rcases ends with rfl | rfl
      · exact heardWrite.punctual cancelled
      · exact punctual_settleDelay heardWrite cancelled script.settle

theorem punctual_misses (heard : b.Heard) (punctual : b.Punctual)
    {result : Bench × Except Fault ScriptOutcome} (misses : Misses script true logs b result) :
    result.1.Punctual := by
  cases misses with
  | missed done missing =>
    exact (punctual_readUntil heard punctual done).aside (evolves_log _ _ _ _) (by simp)
  | unread done => exact punctual_readUntil heard punctual done

theorem punctual_halts (heard : b.Heard) (running : b.aborted = false)
    {result : Bench × Except Fault ScriptOutcome} (halts : Halts script true logs b result) :
    result.1.Punctual ∨ Delayed b result.1 := by
  cases halts with
  | completed => exact .inl (heard.punctual running)
  | read misses => exact .inl (punctual_misses heard (heard.punctual running) misses)
  | unsent done => exact punctual_sendScripted heard running done
  | @struck m line report incident sent done loud =>
    have stopped : Evolves [.tell] m (m.stopScript logs sent incident).1 := evolves_log _ _ _ _
    exact (punctual_sendScripted heard running done).imp
      (fun punctual => punctual.aside stopped (by simp)) (fun delayed => delayed.onward stopped)

/-- A script that was begun in a run that goes on returns at the moment at which the run is
cancelled, unless that happens while it writes; then it returns at the moment at which this write
is over. -/
theorem script_heeds_interrupt (heard : b.Heard) (running : b.aborted = false) (script : Script)
    (logs : Bool) :
    (b.runScript script true logs).1.Punctual ∨
      ∃ n text, Evolves scriptDeeds b n ∧ n.aborted = false ∧
        (n.write text).1.aborted = true ∧
        Evolves [.tell] (n.write text).1 (b.runScript script true logs).1 ∧
        (b.runScript script true logs).1.clock = (n.write text).1.clock := by
  have ends : (b.runScript script true logs).1.Punctual ∨
      Delayed b (b.runScript script true logs).1 := by
    have logged : Evolves [.tell] b (b.log logs .info "Waiting for shell...") := evolves_log _ _ _ _
    have heardToo := logged.heard heard
    have runningToo := (logged.aborted_eq (by simp)).trans running
    rcases runScript_halts b script true logs with missed | ⟨m, n, finds, onward, ends⟩
    · exact .inl (punctual_misses heardToo (heardToo.punctual runningToo) missed)
    · have calm : m.aborted = false := by simpa using finds.undisturbed
      obtain ⟨done, _⟩ := finds
      have reached : Evolves scriptDeeds b n := ((logged.mono (by simp)).trans
        ((evolves_of_read done).mono (by simp))).trans onward.evolves
      exact (punctual_halts (reached.heard heard) (running_of_advances calm onward) ends).imp_right
        fun delayed => delayed.after reached
  refine ends.imp_right fun delayed => ?_
  obtain ⟨reached, running, cancelled, talk⟩ := delayed
  exact ⟨_, _, reached, running, cancelled, talk, talk.clock_eq (by simp)⟩

end Scripts

/-! ## A write that takes its time -/

/-- A target whose writes take long, in a run that is cancelled meanwhile. -/
def sluggish : Target where
  events :=
    [{ after := some 5, action := .emit "$ ".toUTF8.toList },
      { after := some 50, action := .interrupt }]
  flush := some 100

/-- A script that sends nothing but its last line. -/
def farewell : Script where
  prompt := "$ "
  bootTimeout := 20
  promptTimeout := 20
  settle := 0
  commands := []
  shutdownCommand := "poweroff"

/-- The bench of such a run when the prompt has come. -/
def booted : Bench :=
  ((launch sluggish).start.1.log true .info "Waiting for shell...").waitForOutput 20 true

/-- The same bench when the prompt was read. -/
def prompted : Bench :=
  (booted.recordMarked "$ " { booted.session with pending := [] } 2).1

theorem runScript_sluggish :
    (launch sluggish).start.1.runScript farewell true true =
      prompted.runCommands farewell true true [] [] := by
  have read : booted.recordMarked "$ " { booted.session with pending := [] } 2 =
      (prompted, .ok "$ ") := Prod.ext rfl (by decide +kernel)
  have first : ((launch sluggish).start.1.log true .info "Waiting for shell...").readUntil
      farewell.prompt farewell.bootTimeout true = (prompted, .ok ⟨.marker, "" ++ "$ ", _⟩) :=
    readUntil_of_awaited (by decide) (by decide +kernel) (by decide +kernel)
      (by decide +kernel : booted.session.takeChunk = _) (by decide +kernel) read
  rw [runScript, first]
  rfl

theorem late_sluggish :
    ⟨50, .aborted⟩ ∈ ((launch sluggish).start.1.runScript farewell true true).1.history ∧
      ((launch sluggish).start.1.runScript farewell true true).1.clock = 105 := by
  rw [runScript_sluggish]
  exact ⟨by decide +kernel, by decide +kernel⟩

theorem script_heeds_interrupt_sluggish :
    ∃ n text, Evolves scriptDeeds (launch sluggish).start.1 n ∧ n.aborted = false ∧
      (n.write text).1.aborted = true ∧ (n.write text).1.clock = 105 := by
  have launched : (launch sluggish).Heard :=
    (alike_launch sluggish).passes.heard (heard_launched sluggish)
  have heard : (launch sluggish).start.1.Heard := (evolves_start _).heard launched
  obtain ⟨member, late⟩ := late_sluggish
  rcases script_heeds_interrupt heard rfl farewell true with punctual |
    ⟨n, text, reached, running, cancelled, -, clock⟩
  · have now := punctual _ member rfl
    rw [late] at now
    exact absurd now (by decide)
  · exact ⟨n, text, reached, running, cancelled, by rw [← clock, late]⟩

/-- A cancellation that comes while the last line is written is noticed at the end of the write
only. -/
theorem interrupt_waits_for_write :
    ∃ c outcome, (launch sluggish).start.1.runScript farewell true true = (c, .ok outcome) ∧
      outcome.status = .interrupted ∧ ⟨50, .aborted⟩ ∈ c.history ∧ c.clock = 105 := by
  obtain ⟨member, late⟩ := late_sluggish
  let outcome : ScriptOutcome := .stopped ["poweroff"] (.interruptedAfter "poweroff")
  have told : ((launch sluggish).start.1.runScript farewell true true).2 = .ok outcome := by
    rw [runScript_sluggish]
    decide +kernel
  exact ⟨_, outcome, Prod.ext rfl told, rfl, member, late⟩

end ConsoleHarness.Bench
