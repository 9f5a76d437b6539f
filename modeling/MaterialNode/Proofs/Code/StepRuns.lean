import Mathlib.Data.List.Induction
import MaterialNode.Code.Program

/-!
# Runs of Conversion Steps

The steps of a conversion may be taken in any order and repeated. In whatever order they are taken,
lines are only added at the end, and what a step adds does not depend on the lines before it: the
source, the stage in force and whether the header has been parsed settle it. The contents are joined
at a `finish` and stay as they are until the next one (`appendsOnly_run`).

## Main definitions

* `Program.lastStage`: the stage in force after a list of steps.
* `Program.unemitted`: a program of which nothing is known but what settles the next lines.
* `Program.Follows`: what a program has kept of its source after a list of steps.
-/

namespace MaterialNode.Program

/-! ## What Remains of a Run -/

namespace Step

/-- Whether a step parses the header. -/
def isParse : Step → Bool
  | .parse => true
  | _ => false

/-- Whether a step joins the emitted lines into the contents. -/
def isFinish : Step → Bool
  | .finish => true
  | _ => false

/-- The stage that a step changes a program to. -/
def stage? : Step → Option Stage
  | .setStage stage => some stage
  | _ => none

end Step

/-- The stage in force after a list of steps: the last one that was set, or the first one if none
was. -/
def lastStage (stage : Stage) (steps : List Step) : Stage :=
  (steps.filterMap Step.stage?).getLast?.getD stage

/-- The program of source lines that has emitted nothing. It declares nothing before the header is
parsed. -/
def unemitted (lines : List Text) (stage : Stage) (parsed : Bool) : Program where
  stage := stage
  sourceLines := lines
  outputLines := []
  declarations := if parsed then Declarations.ofLines lines else Declarations.empty
  contents := none

/-- `Follows source stage steps program` holds if a program has the source lines, the stage and the
declarations that are left after the steps. -/
structure Follows (source : Text) (stage : Stage) (steps : List Step) (program : Program) :
    Prop where
  /-- The source lines are those of the source. -/
  sourceLines_eq : program.sourceLines = Text.sourceLines source
  /-- The stage is the one in force. -/
  stage_eq : program.stage = lastStage stage steps
  /-- Once the header was parsed, the declarations are those of the source, however often it was
  parsed. -/
  declarations_eq : program.declarations
    = if steps.any Step.isParse then Declarations.ofLines (Text.sourceLines source)
      else Declarations.empty

variable {source : Text} {stage : Stage} {steps : List Step} {program : Program}

theorem lastStage_concat (stage : Stage) (steps : List Step) (step : Step) :
    lastStage stage (steps ++ [step]) = step.stage?.getD (lastStage stage steps) := by
  rw [lastStage, List.filterMap_append, List.getLast?_append]
  cases step <;> rfl

/-! ## Single Steps -/

/-- Taking one more step after others. -/
theorem run_concat (program : Program) (steps : List Step) (step : Step) :
    program.run (steps ++ [step]) = (program.run steps).step step :=
  List.foldl_append

theorem run_append (program : Program) (first second : List Step) :
    program.run (first ++ second) = (program.run first).run second :=
  List.foldl_append

/-- A step keeps what the next lines depend on, except for the stage that it sets and the
declarations that it parses. -/
theorem Follows.step (h : Follows source stage steps program) (step : Step) :
    Follows source stage (steps ++ [step]) (program.step step) where
  sourceLines_eq := (sourceLines_step program step).trans h.sourceLines_eq
  stage_eq := by
    rw [lastStage_concat, ← h.stage_eq]
    cases step <;> rfl
  declarations_eq := by
    rw [List.any_append, List.any_cons, List.any_nil, Bool.or_false]
    cases step with
    | parse =>
      -- Parsing reads the source lines, which are still those of the source.
      show Declarations.ofLines program.sourceLines = _
      rw [h.sourceLines_eq, Step.isParse, Bool.or_true, if_pos rfl]
    | constantBuffers | entryPoint | body | closing | finish | setStage =>
      show program.declarations = _
      rw [h.declarations_eq]
      simp only [Step.isParse, Bool.or_false]

/-- What a step emits is settled by the source lines, the stage and the declarations. -/
theorem Follows.emitted_eq (h : Follows source stage steps program) (step : Step) :
    program.emitted step
      = (unemitted (Text.sourceLines source) (lastStage stage steps)
          (steps.any Step.isParse)).emitted step := by
  have hstage := h.stage_eq
  have hlines := h.sourceLines_eq
  have hdeclarations := h.declarations_eq
  cases step <;> simp only [emitted, unemitted, hstage, hlines, hdeclarations]

/-- Only `finish` changes the contents. -/
theorem contents_step_of_isFinish_eq_false (program : Program) {step : Step}
    (h : step.isFinish = false) : (program.step step).contents = program.contents := by
  cases step with
  | finish => cases h
  | parse | constantBuffers | entryPoint | body | closing | setStage => rfl

/-! ## Runs -/

theorem follows_run (source : Text) (stage : Stage) (steps : List Step) :
    Follows source stage steps ((ofSource source stage).run steps) := by
  induction steps using List.reverseRecOn with
  | nil => exact ⟨rfl, rfl, rfl⟩
  | append_singleton steps step ih =>
    rw [run_concat]
    exact ih.step step

/-- The lines of a program stay at the start of its lines whatever steps follow. -/
theorem outputLines_isPrefix_run (program : Program) (steps : List Step) :
    program.outputLines <+: (program.run steps).outputLines := by
  induction steps using List.reverseRecOn with
  | nil => exact List.prefix_rfl
  | append_singleton steps step ih =>
    rw [run_concat, outputLines_step]
    exact ih.trans (List.prefix_append _ _)

/-- Steps without a `finish` leave the contents alone. -/
theorem contents_run_of_any_eq_false (program : Program) (h : steps.any Step.isFinish = false) :
    (program.run steps).contents = program.contents := by
  induction steps generalizing program with
  | nil => rfl
  | cons step steps ih =>
    rw [List.any_cons, Bool.or_eq_false_iff] at h
    calc (program.run (step :: steps)).contents
        = ((program.step step).run steps).contents := rfl
      _ = (program.step step).contents := ih _ h.2
      _ = program.contents := contents_step_of_isFinish_eq_false program h.1

/-- However the steps of a conversion are ordered and repeated, the source lines stay the same, and
the lines that are there stay in front of all later ones. The lines that one more step adds are those
that it would add to a program without lines for the same source lines, the stage in force and the
declarations of the source, or none if the header has not been parsed. The contents are missing until
the first `finish`, and then are the lines joined that were there at the last one. -/
theorem appendsOnly_run (source : Text) (stage : Stage) (steps : List Step) :
    let program := (ofSource source stage).run steps
    Follows source stage steps program
      ∧ (∀ later, program.outputLines <+: (program.run later).outputLines)
      ∧ (∀ step, (program.step step).outputLines = program.outputLines
          ++ (unemitted (Text.sourceLines source) (lastStage stage steps)
              (steps.any Step.isParse)).emitted step)
      ∧ (steps.any Step.isFinish = false → program.contents = none)
      ∧ ∀ before after, steps = before ++ .finish :: after → after.any Step.isFinish = false →
          program.contents
            = some (Text.joinLines ((ofSource source stage).run before).outputLines) := by
  intro program
  have hfollows : Follows source stage steps program := follows_run source stage steps
  refine ⟨hfollows, outputLines_isPrefix_run program, ?_, ?_, ?_⟩
  · intro step
    rw [outputLines_step, hfollows.emitted_eq]
  · exact contents_run_of_any_eq_false (ofSource source stage)
  · rintro before after rfl hafter
    -- Nothing after the last `finish` changes the contents that it joined.
    have hrun : program = (((ofSource source stage).run before).step .finish).run after :=
      run_append (ofSource source stage) before (.finish :: after)
    rw [hrun, contents_run_of_any_eq_false _ hafter]
    rfl

/-- A source with a texture and an input. -/
def sampledInput : Text := "// ps_5_0\nTexture2D<float4> t0 : register(t0);\n  float4 v0 : TEXCOORD0,"

/-- Steps that emit the entry point before the header is parsed, and for another stage after the
contents were joined. -/
def shuffledSteps : List Step :=
  [.entryPoint, .parse, .finish, .setStage .vertex, .parse, .entryPoint]

/-- The contents hold the first entry point, which has no textures, and the lines go on with the
second one, which has them. -/
theorem appendsOnly_run_shuffledSteps :
    let program := (ofSource sampledInput .pixel).run shuffledSteps
    program.contents = some (Text.joinLines (EntryPoint.lines .pixel Declarations.empty))
      ∧ program.outputLines = EntryPoint.lines .pixel Declarations.empty
          ++ EntryPoint.lines .vertex (Declarations.ofLines (Text.sourceLines sampledInput)) := by
  intro program
  obtain ⟨-, -, -, -, hcontents⟩ := appendsOnly_run sampledInput .pixel shuffledSteps
  obtain ⟨-, -, hlines, -, -⟩ := appendsOnly_run sampledInput .pixel shuffledSteps.dropLast
  exact ⟨hcontents [.entryPoint, .parse] _ rfl rfl, hlines .entryPoint⟩

end MaterialNode.Program
