import ClassEnhancement.Enhance.Transformer
import ClassEnhancement.Proofs.Text.Lines

/-!
# Output of transformers

What a transformer writes comes to the build as one message for each line that is not blank.  How
the output is cut into chunks does not matter, as long as it is cut at line ends.
-/

namespace ClassEnhancement

/-! ## Messages -/

/-- Some character of a line is no white space. -/
def Text.IsFilled (line : List Char) : Prop := ∃ c ∈ line, isBlank c = false

instance (line : List Char) : Decidable (Text.IsFilled line) :=
  inferInstanceAs (Decidable (∃ c ∈ line, Text.isBlank c = false))

namespace Message

/-- The messages of the lines that are not blank. -/
def ofLines (lines : List (List Char)) : List Message :=
  (lines.filter fun line => Text.IsFilled line).map fun line => info (String.ofList line)

theorem ofOutput_eq {output : String} {lines : List (List Char)}
    (has_lines : Text.HasLines output.toList lines) : ofOutput output = ofLines lines := by
  have filled : ∀ line : List Char, (!(Text.trim line).isEmpty) = decide (Text.IsFilled line) := by
    intro line
    rw [Bool.eq_iff_iff, Bool.not_eq_true', List.isEmpty_eq_false_iff, decide_eq_true_eq, ne_eq,
      Text.trim_eq_nil_iff, Text.IsFilled]
    simp
  simp only [ofOutput, ofLines, has_lines.lines_eq, filled]

@[simp]
theorem ofOutput_empty : ofOutput "" = [] := rfl

/-- Output that is cut after a line has the messages of both parts. -/
theorem ofOutput_append {front : String} (ends : Text.EndsLine front.toList) (back : String) :
    ofOutput (front ++ back) = ofOutput front ++ ofOutput back := by
  have both := (Text.hasLines front.toList).append ends (Text.hasLines back.toList)
  rw [← String.toList_append] at both
  rw [ofOutput_eq both, ofOutput_eq (Text.hasLines _), ofOutput_eq (Text.hasLines _), ofLines,
    List.filter_append, List.map_append]
  rfl

/-- A message is a line: it is not broken, and it is not blank. -/
theorem of_mem_ofLines {text : List Char} {lines : List (List Char)}
    (has_lines : Text.HasLines text lines) {message : Message} (member : message ∈ ofLines lines) :
    message.severity = .information ∧ '\n' ∉ message.text.toList ∧
      Text.IsFilled message.text.toList := by
  obtain ⟨line, listed, rfl⟩ := List.mem_map.mp member
  obtain ⟨among, filled⟩ := List.mem_filter.mp listed
  have unbroken := has_lines.unbroken line among
  exact ⟨rfl, by simpa [info] using unbroken, by simpa [info] using filled⟩

end Message

/-! ## Runs -/

/-- Work that writes the same output in other chunks, which are cut at line ends. -/
inductive Work.Rechunks {σ : Type} : Work σ → Work σ → Prop
  /-- The same work. -/
  | refl (work : Work σ) : Rechunks work work
  /-- The other way round. -/
  | symm {work other : Work σ} : Rechunks work other → Rechunks other work
  /-- One change after another. -/
  | trans {work other third : Work σ} : Rechunks work other → Rechunks other third →
      Rechunks work third
  /-- A chunk is cut in two after a line. -/
  | cut {front : String} (ends : Text.EndsLine front.toList) (back : String) (next : Work σ) :
      Rechunks (.log (front ++ back) next) (.log front (.log back next))
  /-- Nothing is written. -/
  | empty (next : Work σ) : Rechunks (.log "" next) next
  /-- The output that follows is in other chunks. -/
  | log (output : String) {next other : Work σ} : Rechunks next other →
      Rechunks (.log output next) (.log output other)
  /-- The output after a class is loaded is in other chunks. -/
  | load (classPath : String) {next other : Option Bytes → Work σ} :
      (∀ answer, Rechunks (next answer) (other answer)) →
      Rechunks (.load classPath next) (.load classPath other)
  /-- The output after files are changed is in other chunks. -/
  | touch (change : FileTree → FileTree) {next other : FileTree → Work σ} :
      (∀ tree, Rechunks (next tree) (other tree)) →
      Rechunks (.touch change next) (.touch change other)

namespace Workbench

variable {bench : Workbench} {session : Session} {σ : Type}

theorem run_log (output : String) (next : Work σ) :
    bench.run (.log output next) session =
      bench.run next { session with build := session.build.report (Message.ofOutput output) } := rfl

theorem run_log_append {front : String} (ends : Text.EndsLine front.toList) (back : String)
    (next : Work σ) :
    bench.run (.log (front ++ back) next) session =
      bench.run (.log front (.log back next)) session := by
  have reported : (session.build.report (Message.ofOutput front)).report (Message.ofOutput back) =
      session.build.report (Message.ofOutput (front ++ back)) := by
    rw [Message.ofOutput_append ends]
    simp [BuildState.report]
  simp only [run_log, reported]

theorem run_log_empty (next : Work σ) :
    bench.run (.log "" next) session = bench.run next session := by
  have unreported : session.build.report [] = session.build := by simp [BuildState.report]
  rw [run_log, Message.ofOutput_empty, unreported]

theorem run_of_rechunks {work other : Work σ} (rechunks : work.Rechunks other) (session : Session) :
    bench.run work session = bench.run other session := by
  induction rechunks generalizing session with
  | refl => rfl
  | symm _ hypothesis => exact (hypothesis session).symm
  | trans _ _ first second => exact (first session).trans (second session)
  | cut ends back next => exact run_log_append ends back next
  | empty next => exact run_log_empty next
  | log output _ hypothesis => exact hypothesis _
  | load classPath _ hypothesis => exact hypothesis _ _
  | touch change _ hypothesis => exact hypothesis _ _

/-- How the output of transformers comes to the build. -/
structure Relays (bench : Workbench) (session : Session) : Prop where
  /-- An output is made up of lines, in one way. -/
  readable : ∀ output : String, ∃! lines, Text.HasLines output.toList lines
  /-- Writing it adds a message for each line that is not blank, in order, and nothing else. -/
  logs : ∀ (σ : Type) (output : String) (next : Work σ) (lines : List (List Char)),
    Text.HasLines output.toList lines →
    bench.run (.log output next) session =
      bench.run next { session with build := session.build.report (Message.ofLines lines) }
  /-- Each message is worth knowing, holds no line feed and is not blank. -/
  kept : ∀ (output : String) (lines : List (List Char)), Text.HasLines output.toList lines →
    ∀ message ∈ Message.ofLines lines, message.severity = .information ∧
      '\n' ∉ message.text.toList ∧ Text.IsFilled message.text.toList
  /-- Output that is empty or ends in a line feed can be written apart from what follows. -/
  cut : ∀ (σ : Type) (front back : String) (next : Work σ), Text.EndsLine front.toList →
    bench.run (.log (front ++ back) next) session =
      bench.run (.log front (.log back next)) session
  /-- However output is cut at line ends, a run comes to the same. -/
  rechunked : ∀ (σ : Type) (work other : Work σ), work.Rechunks other →
    bench.run work session = bench.run other session

/-- Output is neither lost nor merged. -/
theorem relays_output (bench : Workbench) (session : Session) : bench.Relays session where
  readable output := by simpa only [Text.hasLines_iff] using existsUnique_eq'
  logs _ output next lines has_lines := by rw [run_log, Message.ofOutput_eq has_lines]
  kept _ _ has_lines _ member := Message.of_mem_ofLines has_lines member
  cut _ _ back next ends := run_log_append ends back next
  rechunked _ _ _ rechunks := run_of_rechunks rechunks session

example : Message.ofOutput "a\r\n\u00a0\n b\r" = [.info "a", .info " b\r"] := by decide

end Workbench
end ClassEnhancement
