import Mathlib.Control.Monad.Basic
import Mathlib.Data.List.Infix
import RoleGate.Proofs.Gate.Decision

/-! A gate remembers nothing but the expressions in its cache, and answers as if it did not.

The session of a new gate is held against one without memory, where each call is put to a gate that
was made for it, over the grants as they are then. Both give the same answers, and the cache holds
one expression for each text that was read and spells one.
-/

set_option autoImplicit false

namespace RoleGate

deriving instance DecidableEq for Run
deriving instance DecidableEq for Outcome
deriving instance DecidableEq for GateAnswer
deriving instance DecidableEq for SessionAnswer

namespace SessionStep

def readText? : SessionStep → Option String
  | .grants _ => none
  | .call _ asked => if asked.isAdmitted then some asked.text else none

def tableAfter (table : GrantTable) : SessionStep → GrantTable
  | .grants command => table.apply command
  | .call _ _ => table

def freshAnswer (settings : Settings) (models : Registry) (table : GrantTable) :
    SessionStep → SessionAnswer
  | .grants command => .grants (table.answer command)
  | .call entry asked => .call (Gate.answer { settings, models } table.source entry asked).1

end SessionStep

namespace Session

/-- The answers where a gate is made for each step; only the grants go on to the next one. -/
def freshAnswers (settings : Settings) (models : Registry) (table : GrantTable) :
    List SessionStep → List SessionAnswer
  | [] => []
  | step :: rest =>
    step.freshAnswer settings models table ::
      freshAnswers settings models (step.tableAfter table) rest

def cached (session : Session) : Nat := session.gate.cache.size

/-- How many texts were read in these steps that spell an expression. -/
def distinctTexts (steps : List SessionStep) : Nat :=
  ((steps.filterMap SessionStep.readText?).filter ParsedExpr.accepts).dedup.length

/-- The session of a gate that has read these texts since it was made. -/
def reached (settings : Settings) (models : Registry) (texts : List String) (table : GrantTable) :
    Session :=
  ⟨⟨settings, models, .ofTexts texts⟩, .live table⟩

variable (settings : Settings) (models : Registry)

/-! ### One step -/

theorem answer_fst_ofTexts (texts : List String) (source : RoleSource) (entry : GateEntry)
    (call : GateCall) :
    (Gate.answer ⟨settings, models, .ofTexts texts⟩ source entry call).1 =
      (Gate.answer ⟨settings, models, {}⟩ source entry call).1 := by
  have alike : (ExprCache.ofTexts texts).read call.text = ExprCache.read {} call.text := by
    rw [(ExprCache.sound_ofTexts texts).read_eq, ExprCache.sound_empty.read_eq]
  exact Gate.answer_congr source entry call rfl rfl alike

theorem answer_snd_ofTexts (texts : List String) (source : RoleSource) (entry : GateEntry)
    (call : GateCall) :
    (Gate.answer ⟨settings, models, .ofTexts texts⟩ source entry call).2 =
      ⟨settings, models, .ofTexts (texts ++ (SessionStep.call entry call).readText?.toList)⟩ := by
  rw [Gate.answer_eq]
  dsimp only
  rw [Gate.decide_gate, SessionStep.readText?]
  split
  · rw [Option.toList_some, ExprCache.ofTexts_append]
  · rw [Option.toList_none, List.append_nil]

theorem step_reached (texts : List String) (table : GrantTable) (step : SessionStep) :
    (reached settings models texts table).step step =
      some (step.freshAnswer settings models table,
        reached settings models (texts ++ step.readText?.toList) (step.tableAfter table)) := by
  cases step with
  | grants command =>
    simp [reached, Session.step, SessionStep.freshAnswer, SessionStep.readText?,
      SessionStep.tableAfter]
  | call entry asked =>
    simp only [reached, Session.step, RoleStore.source, SessionStep.freshAnswer,
      SessionStep.tableAfter, answer_fst_ofTexts, answer_snd_ofTexts]

/-! ### All steps -/

theorem readTexts_cons (step : SessionStep) (rest : List SessionStep) :
    (step :: rest).filterMap SessionStep.readText? =
      step.readText?.toList ++ rest.filterMap SessionStep.readText? := by
  rw [List.filterMap_cons]
  cases step.readText? with
  | none => rfl
  | some text => rfl

/-- A run answers as if the gate were new at each step. Of the sizes of the cache, the first is that
before the run, and each of the others that after one more step. -/
theorem run_reached (texts : List String) (table : GrantTable) (steps : List SessionStep) :
    ∃ trace, (reached settings models texts table).run steps = some trace ∧
      trace.map Prod.fst = freshAnswers settings models table steps ∧
      (ExprCache.ofTexts texts).size :: trace.map (fun entry => entry.2.cached) =
        steps.inits.map fun front =>
          (ExprCache.ofTexts (texts ++ front.filterMap SessionStep.readText?)).size := by
  induction steps generalizing texts table with
  | nil => exact ⟨[], rfl, rfl, by simp⟩
  | cons step rest ih =>
    obtain ⟨trace, ran, answers, sizes⟩ :=
      ih (texts ++ step.readText?.toList) (step.tableAfter table)
    let after := reached settings models (texts ++ step.readText?.toList) (step.tableAfter table)
    refine ⟨(step.freshAnswer settings models table, after) :: trace, ?_, ?_, ?_⟩
    · simp only [run, step_reached, ran, Option.map_some, after]
    · simp only [List.map_cons, answers, freshAnswers]
    · -- The sizes after the step are those of a run that starts with one more text read.
      have size : after.cached = (ExprCache.ofTexts (texts ++ step.readText?.toList)).size := rfl
      rw [List.map_cons, size, sizes, List.inits_cons]
      simp [readTexts_cons, List.append_assoc, Function.comp_def]

theorem cached_le_of_step {session after : Session} {step : SessionStep} {answer : SessionAnswer}
    (stepped : session.step step = some (answer, after)) : session.cached ≤ after.cached := by
  cases step with
  | grants command =>
    cases store : session.store with
    | live table =>
      simp only [Session.step, store, Option.some.injEq, Prod.mk.injEq] at stepped
      rw [← stepped.2]
      exact Nat.le_refl _
    | fixed source => simp [Session.step, store] at stepped
  | call entry asked =>
    simp only [Session.step, Gate.answer_eq, Option.some.injEq, Prod.mk.injEq] at stepped
    rw [← stepped.2]
    simp only [cached, Gate.decide_gate]
    split
    · exact session.gate.cache.size_le_size_after asked.text
    · exact Nat.le_refl _

theorem cached_isChain {session : Session} {steps : List SessionStep}
    {trace : List (SessionAnswer × Session)} (ran : session.run steps = some trace) :
    (session.cached :: trace.map fun entry => entry.2.cached).IsChain (· ≤ ·) := by
  induction steps generalizing session trace with
  | nil =>
    obtain rfl : trace = [] := by simpa [run, eq_comm] using ran
    exact .singleton _
  | cons step rest ih =>
    unfold run at ran
    split at ran
    · nomatch ran
    · next answer after stepped =>
      obtain ⟨tail, ranTail, rfl⟩ := Option.map_eq_some_iff.mp ran
      exact .cons_cons (cached_le_of_step stepped) (ih ranTail)

/-- Whatever is done with a new gate, each step is answered as if the gate had been made for it, and
the cache holds as many expressions as texts were read that spell one; it never shrinks. -/
theorem run_memoryless (table : GrantTable) (steps : List SessionStep) :
    ∃ trace, run ⟨{ settings, models }, .live table⟩ steps = some trace ∧
      trace.map Prod.fst = freshAnswers settings models table steps ∧
      0 :: trace.map (fun entry => entry.2.cached) = steps.inits.map distinctTexts ∧
      (trace.map fun entry => entry.2.cached).Pairwise (· ≤ ·) := by
  obtain ⟨trace, ran, answers, sizes⟩ := run_reached settings models [] table steps
  refine ⟨trace, ran, answers, ?_, ?_⟩
  · have counted (front : List SessionStep) :
        (ExprCache.ofTexts ([] ++ front.filterMap SessionStep.readText?)).size =
          distinctTexts front :=
      ExprCache.size_ofTexts _
    simp only [counted] at sizes
    exact sizes
  · exact (List.isChain_iff_pairwise.mp (cached_isChain ran)).of_cons

/-- The expression that bob is asked about stays in the cache while he is made an editor and stops
being one. Neither the text that does not parse nor that of the guest is kept, but the one about a
document that is bound to nothing is. -/
theorem run_memoryless_editor :
    let bob : Actor := .someone (.user ⟨"2", "bob"⟩)
    let check (actor : Actor) (text : String) : SessionStep :=
      .call .check { text, request := { currentUser? := some actor } }
    let checked (run : Run Bool) : SessionAnswer := .call (.checked ⟨run, 0⟩)
    let editor (granted : Bool) : Run Bool :=
      ⟨.ok granted, [⟨bob.principal?, "editor", .global, granted⟩]⟩
    ∃ trace, Session.run ⟨{}, .live {}⟩ [
        check bob "editor", .grants (.grant ⟨"2", "editor", .global⟩), check bob "editor",
        check bob "editor or", check .guest "admin", check bob "owner of :doc",
        .grants (.revokeAll "2" .global), check bob "editor"] = some trace ∧
      trace.map Prod.fst = [
        checked (editor false), .grants (.flag true), checked (editor true),
        checked (.fail (.malformed .unexpectedEnd)), checked (.pure false),
        checked (.fail (.unboundModel "doc")), .grants (.count 1), checked (editor false)] ∧
      trace.map (fun entry => entry.2.cached) = [1, 1, 1, 1, 1, 2, 2, 2] := by
  intro bob check checked editor
  obtain ⟨trace, ran, answers, sizes, -⟩ := run_memoryless {} {} {} _
  refine ⟨trace, ran, answers.trans (by decide +kernel), ?_⟩
  have counted : 0 :: trace.map (fun entry => entry.2.cached) = [0, 1, 1, 1, 1, 1, 2, 2, 2] :=
    sizes.trans (by decide +kernel)
  exact (List.cons.inj counted).2

end Session

end RoleGate
