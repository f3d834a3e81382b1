import ConsoleHarness.Proofs.Bench.Program

/-! # The exchange of a script

A script reads its first prompt, and from then on sends lines and reads prompts until one of these
calls goes wrong or nothing is left to send.  `Bench.Advance` is a call that went well,
`Bench.Misses` a read that did not, and `Bench.Halts` lists the ways in which a script ends after
its last advance.  What holds of every script is then a fact about its first read, an induction over its
advances and a case analysis over its end.
-/

namespace ConsoleHarness.Bench

variable {script : Script} {heeds logs : Bool}

/-- A read of a script that found its prompt. -/
inductive Finds (script : Script) (heeds : Bool) (b c : Bench) : Prop
  | read {limit reading} (done : b.readUntil script.prompt limit heeds = (c, .ok reading))
      (found : reading.found = true) : Finds script heeds b c

/-- A read of a script that did not find its prompt, and so ends the script. -/
inductive Misses (script : Script) (heeds logs : Bool) (b : Bench) :
    Bench × Except Fault ScriptOutcome → Prop
  | missed {c limit reading phase sent}
      (done : b.readUntil script.prompt limit heeds = (c, .ok reading))
      (missing : reading.found = false) :
      Misses script heeds logs b
        ((c.stopScript logs sent (reading.reason.miss phase limit)).map id .ok)
  | unread {c limit fault} (done : b.readUntil script.prompt limit heeds = (c, .error fault)) :
      Misses script heeds logs b (c, .error fault)

/-- A call after which a script goes on: a read that found its prompt, or a line that was sent
without an incident. -/
inductive Advance (script : Script) (heeds logs : Bool) : Bench → Bench → Prop
  | read {b c} (finds : Finds script heeds b c) : Advance script heeds logs b c
  | send {b c line report} (done : b.sendScripted script line heeds logs = (c, .ok report))
      (quiet : report.incident = none) : Advance script heeds logs b c

/-- The end of a script after its last advance. -/
inductive Halts (script : Script) (heeds logs : Bool) (b : Bench) :
    Bench × Except Fault ScriptOutcome → Prop
  | completed {sent} : Halts script heeds logs b (b, .ok ⟨.completed, sent, []⟩)
  | read {result} (misses : Misses script heeds logs b result) : Halts script heeds logs b result
  | struck {c line report incident sent}
      (done : b.sendScripted script line heeds logs = (c, .ok report))
      (loud : report.incident = some incident) :
      Halts script heeds logs b ((c.stopScript logs sent incident).map id .ok)
  | unsent {c line fault} (done : b.sendScripted script line heeds logs = (c, .error fault)) :
      Halts script heeds logs b (c, .error fault)

/-- `c` comes from `b` by calls of a script that went well. -/
abbrev Advances (script : Script) (heeds logs : Bool) : Bench → Bench → Prop :=
  Relation.ReflTransGen (Advance script heeds logs)

theorem evolves_of_read {b c : Bench} {marker : String} {limit : Millis}
    {result : Except Fault Reading} (done : b.readUntil marker limit heeds = (c, result)) :
    Evolves [.world, .consume, .prompt] b c := by
  have read := evolves_readUntil b marker limit heeds
  rw [done] at read
  exact read

theorem evolves_of_send {b c : Bench} {line : String} {result : Except Fault SendReport}
    (done : b.sendScripted script line heeds logs = (c, result)) :
    Evolves [.world, .write, .tell] b c := by
  have sent := evolves_sendScripted b script line heeds logs
  rw [done] at sent
  exact sent

theorem Advances.evolves {b c : Bench} (advances : Advances script heeds logs b c) :
    Evolves scriptDeeds b c := by
  induction advances with
  | refl => exact .refl
  | tail _ last ih =>
    refine ih.trans ?_
    cases last with
    | read finds =>
      obtain ⟨done, _⟩ := finds
      exact (evolves_of_read done).mono (by simp)
    | send done quiet => exact (evolves_of_send done).mono (by simp)

theorem runCommands_halts (b : Bench) (sent commands : List String) :
    ∃ m, Advances script heeds logs b m ∧
      Halts script heeds logs m (b.runCommands script heeds logs sent commands) := by
  induction commands generalizing b sent with
  | nil =>
    rw [runCommands]
    cases done : b.sendScripted script script.shutdownCommand heeds logs with
    | mk c result =>
      cases result with
      | error fault => exact ⟨b, .refl, .unsent done⟩
      | ok report =>
        dsimp only
        cases outcome : report.incident with
        | some incident => exact ⟨b, .refl, .struck done outcome⟩
        | none => exact ⟨c, .single (.send done outcome), .completed⟩
  | cons command rest ih =>
    rw [runCommands]
    cases done : b.sendScripted script command heeds logs with
    | mk c result =>
      cases result with
      | error fault => exact ⟨b, .refl, .unsent done⟩
      | ok report =>
        dsimp only
        cases outcome : report.incident with
        | some incident => exact ⟨b, .refl, .struck done outcome⟩
        | none =>
          -- The line is sent; its prompt decides whether the other commands follow.
          have sentOne : Advances script heeds logs b c := .single (.send done outcome)
          dsimp only
          cases read : c.readUntil script.prompt script.promptTimeout heeds with
          | mk d result =>
            cases result with
            | error fault => exact ⟨c, sentOne, .read (.unread read)⟩
            | ok reading =>
              dsimp only
              cases found : reading.found with
              | false => exact ⟨c, sentOne, .read (.missed read found)⟩
              | true =>
                obtain ⟨m, onward, halts⟩ := ih d (report.addTo sent command)
                exact ⟨m, (sentOne.tail (.read ⟨read, found⟩)).trans onward, halts⟩

/-- A script misses its first prompt, or finds it, advances as far as it can, and ends. -/
theorem runScript_halts (b : Bench) (script : Script) (heeds logs : Bool) :
    Misses script heeds logs (b.log logs .info "Waiting for shell...")
        (b.runScript script heeds logs) ∨
      ∃ c m, Finds script heeds (b.log logs .info "Waiting for shell...") c ∧
        Advances script heeds logs c m ∧
        Halts script heeds logs m (b.runScript script heeds logs) := by
  rw [runScript]
  cases read : (b.log logs .info "Waiting for shell...").readUntil script.prompt
      script.bootTimeout heeds with
  | mk c result =>
    cases result with
    | error fault => exact .inl (.unread read)
    | ok reading =>
      dsimp only
      cases found : reading.found with
      | false => exact .inl (.missed read found)
      | true =>
        obtain ⟨m, onward, halts⟩ := runCommands_halts c [] script.commands
        exact .inr ⟨c, m, ⟨read, found⟩, onward, halts⟩

end ConsoleHarness.Bench
