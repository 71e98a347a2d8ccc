import ConfigWiring.Generator.Generation
import ConfigWiring.Proofs.WiringFile.StandardText

/-!
# Runs that write

A run of the generator that writes its file describes the marked structs, renders the wiring
file, replaces the generated file by its text and then brings the env file up to date.  With the
standard template the text is the standard one.
-/

namespace ConfigWiring
namespace Generator

variable {generator : Generator} {project : Project} {further : List Descriptor}
  {host behind : Host} {report : GenerationReport}

/-- The env file is brought up to date if that is asked for. -/
def Seeds
    (generator : Generator)
    (project : Project)
    (descriptors : List Descriptor)
    (host : Host)
    (sync? : Option SyncReport)
    (behind : Host) : Prop :=
  match sync? with
  | some sync =>
      generator.config.dotenv = true ∧
        (generator.synchronize project descriptors).on host = (.ok sync, behind)
  | none => generator.config.dotenv = false ∧ behind = host

/-- The steps of a run that writes. -/
structure Writing
    (generator : Generator)
    (project : Project)
    (further : List Descriptor)
    (host : Host)
    (marked : List MarkedType)
    (descriptors : List Descriptor)
    (text : String)
    (written : Host)
    (sync? : Option SyncReport)
    (behind : Host) : Prop where
  /-- The marked types are found. -/
  marks : generator.marked project = .ok marked
  /-- The structs among them are described. -/
  describes : generator.describe marked = .ok descriptors
  /-- The wiring file has a text. -/
  renders : generator.template.render host.environment
    (generator.wiringFile project marked descriptors) = .ok (.source text)
  /-- The generated file gets the text. -/
  replaces : (host.tell (generator.importNotices project marked)).replaceFile
    (project.resolve generator.config.targetPath) text = (.ok (), written)
  /-- The env file is brought up to date. -/
  seeds : generator.Seeds project (descriptors ++ further)
    (written.tell [.wiringGenerated (project.resolve generator.config.targetPath)
      descriptors.length]) sync? behind

/-- Work that succeeds has succeeded step by step. -/
theorem on_bind_eq_ok
    {first next : Type}
    {procedure : Procedure first}
    {continuation : first -> Procedure next}
    {value : next}
    (done : (procedure >>= continuation).on host = (.ok value, behind)) :
    ∃ result middle, procedure.on host = (.ok result, middle) ∧
      (continuation result).on middle = (.ok value, behind) := by
  cases outcome : procedure.on host with
  | mk result middle =>
      cases result with
      | error failure =>
          rw [Procedure.on_bind_error outcome] at done
          cases done
      | ok result =>
          rw [Procedure.on_bind_ok outcome] at done
          exact ⟨result, middle, rfl, done⟩

theorem on_ofExcept
    {result : Type}
    (outcome : Except Failure result)
    (host : Host) :
    (Procedure.ofExcept outcome).on host = (outcome, host) := by
  cases outcome <;> rfl

theorem on_tell (notices : List Notice) (host : Host) :
    (Procedure.tell notices).on host = (.ok (), host.tell notices) := rfl

theorem on_get (host : Host) : Procedure.on get host = (.ok host, host) := rfl

/-- Clearing writes nothing. -/
theorem written_of_clear
    {target : Path}
    (cleared : (clear target).on host = (.ok report, behind)) :
    report.written = false := by
  obtain ⟨removed, middle, _, cleared⟩ := on_bind_eq_ok cleared
  cases removed <;> · cases cleared; rfl

/-- Writing a text replaces the file and says so, if the formatter is idle. -/
theorem on_write
    (idle : generator.formatter = .idle)
    (target : Path)
    (text : String)
    (count : Nat)
    (host : Host) :
    (generator.write target text count).on host =
      match host.replaceFile target text with
      | (.error failure, after) => (.error failure, after)
      | (.ok (), after) => (.ok (), after.tell [.wiringGenerated target count]) := by
  unfold write formatTarget
  cases replaced : host.replaceFile target text with
  | mk outcome after =>
      have first := (Procedure.on_of (Host.replaceFile target text) host).trans replaced
      cases outcome with
      | error failure => rw [Procedure.on_bind_error first]
      | ok =>
          rw [Procedure.on_bind_ok first, idle]
          rfl

/-- What the standard template writes is the standard text. -/
theorem text_eq_of_render
    {file : WiringFile}
    {environment : Environment}
    {text : String}
    (standard : generator.template = ⟨WiringTemplate.standardParts⟩)
    (renders : generator.template.render environment file = .ok (.source text)) :
    file.descriptors ≠ [] ∧ text = file.standardText := by
  have something : file.descriptors ≠ [] := by
    intro none
    rw [WiringTemplate.render_empty _ _ none] at renders
    cases renders
  rw [standard, WiringTemplate.render_standardParts something] at renders
  cases renders
  exact ⟨something, rfl⟩

section Steps

variable {marked : List MarkedType} {descriptors : List Descriptor} {text : String}
  {written : Host} {sync? : Option SyncReport}

/-- What a run does with the outcome of rendering. -/
def finish
    (generator : Generator)
    (project : Project)
    (descriptors further : List Descriptor) :
    Rendered -> Procedure GenerationReport
  | .empty => clear (project.resolve generator.config.targetPath)
  | .source text => do
      generator.write (project.resolve generator.config.targetPath) text descriptors.length
      if generator.config.dotenv then
        let sync ← generator.synchronize project (descriptors ++ further)
        return ⟨project.resolve generator.config.targetPath, true, false, descriptors, some sync⟩
      else
        return ⟨project.resolve generator.config.targetPath, true, false, descriptors, none⟩

theorem generate_eq (generator : Generator) (project : Project) (further : List Descriptor) :
    generator.generate project further = (do
      let marked ← .ofExcept (generator.marked project)
      let descriptors ← .ofExcept (generator.describe marked)
      Procedure.tell (generator.importNotices project marked)
      let host ← get
      let rendered ← .ofExcept (generator.template.render host.environment
        (generator.wiringFile project marked descriptors))
      generator.finish project descriptors further rendered) := by
  unfold generate
  refine bind_congr fun marked => bind_congr fun descriptors => bind_congr fun _ =>
    bind_congr fun host => bind_congr fun rendered => ?_
  cases rendered with
  | empty => rfl
  | source text =>
      refine bind_congr fun _ => ?_
      cases generator.config.dotenv <;> simp

/-- What a run does once it has written its file. -/
def conclude
    (generator : Generator)
    (project : Project)
    (descriptors further : List Descriptor) : Procedure GenerationReport :=
  if generator.config.dotenv then do
    let sync ← generator.synchronize project (descriptors ++ further)
    return ⟨project.resolve generator.config.targetPath, true, false, descriptors, some sync⟩
  else
    return ⟨project.resolve generator.config.targetPath, true, false, descriptors, none⟩

/-- A run that describes the structs and renders the wiring file goes on from there. -/
theorem on_generate_of_render
    {rendered : Rendered}
    (marks : generator.marked project = .ok marked)
    (describes : generator.describe marked = .ok descriptors)
    (renders : generator.template.render host.environment
      (generator.wiringFile project marked descriptors) = .ok rendered) :
    (generator.generate project further).on host =
      (generator.finish project descriptors further rendered).on
        (host.tell (generator.importNotices project marked)) := by
  have scans : (Procedure.ofExcept (generator.marked project)).on host = (.ok marked, host) := by
    rw [on_ofExcept, marks]
  have tells : (Procedure.ofExcept (generator.describe marked)).on host =
      (.ok descriptors, host) := by
    rw [on_ofExcept, describes]
  have fills : (Procedure.ofExcept (generator.template.render
      (host.tell (generator.importNotices project marked)).environment
      (generator.wiringFile project marked descriptors))).on
        (host.tell (generator.importNotices project marked)) =
      (.ok rendered, host.tell (generator.importNotices project marked)) := by
    rw [on_ofExcept]
    exact congrArg (·, _) renders
  rw [generate_eq, Procedure.on_bind_ok scans, Procedure.on_bind_ok tells,
    Procedure.on_bind_ok (on_tell _ _), Procedure.on_bind_ok (on_get _),
    Procedure.on_bind_ok fills]

/-- A run that can write its file does, and then brings the env file up to date. -/
theorem on_generate_of_replaceFile
    (idle : generator.formatter = .idle)
    (marks : generator.marked project = .ok marked)
    (describes : generator.describe marked = .ok descriptors)
    (renders : generator.template.render host.environment
      (generator.wiringFile project marked descriptors) = .ok (.source text))
    (replaces : (host.tell (generator.importNotices project marked)).replaceFile
      (project.resolve generator.config.targetPath) text = (.ok (), written)) :
    (generator.generate project further).on host =
      (generator.conclude project descriptors further).on
        (written.tell [.wiringGenerated (project.resolve generator.config.targetPath)
          descriptors.length]) := by
  have wrote := on_write idle (project.resolve generator.config.targetPath) text
    descriptors.length (host.tell (generator.importNotices project marked))
  rw [replaces] at wrote
  rw [on_generate_of_render marks describes renders, finish, Procedure.on_bind_ok wrote]
  rfl

/-- A run of these steps reports them. -/
theorem Writing.generate
    (idle : generator.formatter = .idle)
    (writing : generator.Writing project further host marked descriptors text written sync? behind) :
    (generator.generate project further).on host =
      (.ok ⟨project.resolve generator.config.targetPath, true, false, descriptors, sync?⟩,
        behind) := by
  rw [on_generate_of_replaceFile idle writing.marks writing.describes writing.renders
    writing.replaces, conclude]
  have seeds := writing.seeds
  cases sync? with
  | none =>
      obtain ⟨off, rfl⟩ := seeds
      rw [off]
      rfl
  | some sync =>
      obtain ⟨asked, synchronized⟩ := seeds
      rw [asked, if_pos rfl, Procedure.on_bind_ok synchronized]
      rfl

/-- A run that succeeds has described the structs and rendered the wiring file, and has gone on from
there. -/
theorem exists_finish
    (generated : (generator.generate project further).on host = (.ok report, behind)) :
    ∃ marked descriptors rendered, generator.marked project = .ok marked ∧
      generator.describe marked = .ok descriptors ∧
        generator.template.render host.environment
            (generator.wiringFile project marked descriptors) = .ok rendered ∧
          (generator.finish project descriptors further rendered).on
            (host.tell (generator.importNotices project marked)) = (.ok report, behind) := by
  rw [generate_eq] at generated
  obtain ⟨marked, middle, marks, generated⟩ := on_bind_eq_ok generated
  rw [on_ofExcept] at marks
  injection marks with marks same
  subst same
  obtain ⟨descriptors, middle, describes, generated⟩ := on_bind_eq_ok generated
  rw [on_ofExcept] at describes
  injection describes with describes same
  subst same
  rw [Procedure.on_bind_ok (on_tell _ _), Procedure.on_bind_ok (on_get _)] at generated
  obtain ⟨rendered, middle, renders, generated⟩ := on_bind_eq_ok generated
  rw [on_ofExcept] at renders
  injection renders with renders same
  subst same
  exact ⟨marked, descriptors, rendered, marks, describes, renders, generated⟩

/-- A run that reports that it wrote has done these steps. -/
theorem exists_writing
    (idle : generator.formatter = .idle)
    (generated : (generator.generate project further).on host = (.ok report, behind))
    (wrote : report.written = true) :
    ∃ marked text written,
      generator.Writing project further host marked report.descriptors text written report.sync?
          behind ∧
        report.target = project.resolve generator.config.targetPath := by
  obtain ⟨marked, descriptors, rendered, marks, describes, renders, finished⟩ :=
    exists_finish generated
  cases rendered with
  | empty =>
      rw [written_of_clear finished] at wrote
      cases wrote
  | source text =>
      obtain ⟨_, after, writes, finished⟩ := on_bind_eq_ok finished
      rw [on_write idle] at writes
      split at writes
      · cases writes
      · next written replaces =>
          cases writes
          cases dotenv : generator.config.dotenv with
          | false =>
              rw [dotenv] at finished
              cases finished
              exact ⟨marked, text, written, ⟨marks, describes, renders, replaces, dotenv, rfl⟩, rfl⟩
          | true =>
              rw [dotenv, if_pos rfl] at finished
              obtain ⟨sync, _, synchronized, finished⟩ := on_bind_eq_ok finished
              cases finished
              exact ⟨marked, text, written,
                ⟨marks, describes, renders, replaces, dotenv, synchronized⟩, rfl⟩

end Steps

end Generator
end ConfigWiring
