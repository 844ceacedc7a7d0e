import ClassEnhancement.Proofs.ClassFile.Format

/-!
# Class files cut short

A reader of octets makes up its mind once: every beginning up to there is too short for it, and
nothing after it changes the answer.  Readers one after another do the same, and names are looked up
when all octets are read.  So a header is too short up to the end of the reference to the super
class, or up to its first fault, and from there on it is read the same way.
-/

namespace ClassEnhancement
namespace ClassFile

/-! ## Readers that make up their mind once -/

/-- Reads something from octets and leaves the others. -/
abbrev Reader (α : Type) := Bytes → Except HeaderError (α × Bytes)

/-- Reads one thing, and then what depends on it. -/
def Reader.andThen {α β : Type} (reader : Reader α) (next : α → Reader β) : Reader β :=
  fun bytes => reader bytes >>= fun read => next read.1 read.2

/-- Answers without reading. -/
def Reader.answer {α : Type} (answer : Except HeaderError α) : Reader α :=
  fun bytes => answer.map (·, bytes)

/-- A reader has its answer after some octets. -/
structure Settles {α : Type} (reader : Reader α) (used : Bytes) (answer : Except HeaderError α) :
    Prop where
  /-- What follows them is left over, and the answer is the same. -/
  settled : ∀ rest, reader (used ++ rest) = answer.map (·, rest)
  /-- Fewer of them are too few. -/
  short : ∀ front, front <+: used → front ≠ used → reader front = .error .unexpectedEnd

/-- Any octets are too few, or the reader has its answer after the first of them. -/
def IsPrompt {α : Type} (reader : Reader α) : Prop :=
  ∀ bytes, reader bytes = .error .unexpectedEnd ∨
    ∃ used rest answer, bytes = used ++ rest ∧ Settles reader used answer

variable {α β : Type} {reader : Reader α} {next : α → Reader β} {used more : Bytes}

theorem Settles.andThen_error {error : HeaderError} (first : Settles reader used (.error error)) :
    Settles (reader.andThen next) used (.error error) where
  settled rest := by
    rw [Reader.andThen, first.settled]
    rfl
  short front begins fewer := by
    rw [Reader.andThen, first.short front begins fewer]
    rfl

theorem Settles.andThen_ok {value : α} {answer : Except HeaderError β}
    (first : Settles reader used (.ok value)) (second : Settles (next value) more answer) :
    Settles (reader.andThen next) (used ++ more) answer where
  settled rest := by
    rw [Reader.andThen, List.append_assoc, first.settled]
    exact second.settled rest
  short front begins fewer := by
    rcases List.prefix_or_prefix_of_prefix begins (List.prefix_append used more) with early | late
    · by_cases whole : front = used
      · -- The first reader is done, and nothing is left for the second one.
        subst whole
        have nothing : [] ≠ more := by
          rintro rfl
          exact fewer (List.append_nil front).symm
        rw [Reader.andThen, ← List.append_nil front, first.settled]
        exact second.short [] List.nil_prefix nothing
      · rw [Reader.andThen, first.short front early whole]
        rfl
    · obtain ⟨part, rfl⟩ := late
      rw [Reader.andThen, first.settled]
      refine second.short part ((List.prefix_append_right_inj used).mp begins) ?_
      rintro rfl
      exact fewer rfl

/-- Prompt readers one after another are prompt. -/
theorem IsPrompt.andThen (prompt : IsPrompt reader) (onward : ∀ value, IsPrompt (next value)) :
    IsPrompt (reader.andThen next) := by
  intro bytes
  rcases prompt bytes with short | ⟨used, rest, answer, rfl, first⟩
  · left
    rw [Reader.andThen, short]
    rfl
  · cases answer with
    | error error => exact .inr ⟨used, rest, .error error, rfl, first.andThen_error⟩
    | ok value =>
        rcases onward value rest with short | ⟨more, rest, answer, rfl, second⟩
        · left
          rw [Reader.andThen, first.settled]
          exact short
        · exact .inr ⟨used ++ more, rest, answer, (List.append_assoc _ _ _).symm,
            first.andThen_ok second⟩

theorem prompt_answer (answer : Except HeaderError α) : IsPrompt (Reader.answer answer) := by
  refine fun bytes => .inr ⟨[], bytes, answer, rfl, fun rest => rfl, fun front begins fewer => ?_⟩
  exact absurd (List.prefix_nil.mp begins) fewer

/-- A reader of a number of octets is prompt. -/
theorem prompt_of_size (count : Nat)
    (short : ∀ bytes : Bytes, bytes.length < count → reader bytes = .error .unexpectedEnd)
    (enough : ∀ used : Bytes, used.length = count →
      ∃ value, ∀ rest, reader (used ++ rest) = .ok (value, rest)) :
    IsPrompt reader := by
  intro bytes
  rcases Nat.lt_or_ge bytes.length count with fewer | many
  · exact .inl (short bytes fewer)
  · have length_eq : (bytes.take count).length = count := List.length_take_of_le many
    obtain ⟨value, settled⟩ := enough (bytes.take count) length_eq
    refine .inr ⟨bytes.take count, bytes.drop count, .ok value,
      (List.take_append_drop count bytes).symm, settled, fun front begins fewer => ?_⟩
    apply short
    rw [← length_eq]
    exact Nat.lt_of_le_of_ne begins.length_le fun same => fewer (begins.eq_of_length same)

/-! ## The readers of a header -/

theorem prompt_takeBytes (count : Nat) : IsPrompt (takeBytes count) := by
  apply prompt_of_size count
  · intro bytes fewer
    exact if_neg (Nat.not_le_of_lt fewer)
  · intro used length_eq
    exact ⟨used, takeBytes_append length_eq⟩

theorem prompt_readU1 : IsPrompt readU1 := by
  apply prompt_of_size 1
  · intro bytes fewer
    obtain rfl := List.length_eq_zero_iff.mp (Nat.lt_one_iff.mp fewer)
    rfl
  · intro used length_eq
    obtain ⟨value, rfl⟩ := List.length_eq_one_iff.mp length_eq
    exact ⟨value, fun rest => rfl⟩

theorem prompt_readU2 : IsPrompt readU2 := by
  apply prompt_of_size 2
  · intro bytes fewer
    match bytes, fewer with
    | [], _ => rfl
    | [_], _ => rfl
  · intro used length_eq
    obtain ⟨high, low, rfl⟩ := List.length_eq_two.mp length_eq
    exact ⟨u2OfBytes high low, fun rest => rfl⟩

/-- The constant that octets spell. -/
def textOf (content : Bytes) : Except HeaderError Constant :=
  match Utf8.decode content with
  | .ok value => .ok (.text value)
  | .error fault => .error (.invalidText fault)

theorem readText_eq :
    readText = Reader.andThen readU2 fun length =>
      Reader.andThen (takeBytes length.toNat) fun content => Reader.answer (textOf content) := by
  funext bytes
  simp only [readText, Reader.andThen, Reader.answer, textOf]
  congr 1
  funext length
  congr 1
  funext content
  cases Utf8.decode content.1 <;> rfl

/-- Reads a constant after its tag. -/
def readTagged (tag : UInt8) : Reader Constant :=
  if tag = Constant.textTag then readText
  else if tag = Constant.classTag then
    Reader.andThen readU2 fun nameIndex => Reader.answer (.ok (.classRef nameIndex))
  else
    match PlainKind.ofTag? tag with
    | none => Reader.answer (.error (.unsupportedConstant tag))
    | some kind =>
      Reader.andThen (takeBytes kind.payloadSize) fun payload =>
        Reader.answer (.ok (.plain kind payload))

theorem readConstant_eq : readConstant = Reader.andThen readU1 readTagged := by
  funext bytes
  simp only [readConstant, Reader.andThen, readTagged]
  congr 1
  funext read
  split_ifs
  · rfl
  · rfl
  · cases PlainKind.ofTag? read.1 <;> rfl

theorem prompt_readText : IsPrompt readText := by
  rw [readText_eq]
  exact prompt_readU2.andThen fun length => (prompt_takeBytes length.toNat).andThen
    fun content => prompt_answer (textOf content)

theorem prompt_readTagged (tag : UInt8) : IsPrompt (readTagged tag) := by
  rw [readTagged]
  split_ifs
  · exact prompt_readText
  · exact prompt_readU2.andThen fun nameIndex => prompt_answer _
  · split
    · exact prompt_answer _
    · next kind _ => exact (prompt_takeBytes kind.payloadSize).andThen fun payload => prompt_answer _

theorem prompt_readConstant : IsPrompt readConstant := by
  rw [readConstant_eq]
  exact prompt_readU1.andThen prompt_readTagged

theorem readSlots_one :
    readSlots 1 = Reader.andThen readConstant fun constant =>
      Reader.answer (.ok constant.slots) := rfl

/-- After a wide constant one slot less is left. -/
theorem readSlots_add_two (count : Nat) :
    readSlots (count + 2) = Reader.andThen readConstant fun constant =>
      Reader.andThen (readSlots (if constant.isWide then count else count + 1)) fun slots =>
        Reader.answer (.ok (constant.slots ++ slots)) := by
  funext bytes
  simp only [readSlots, Reader.andThen]
  congr 1
  funext read
  split_ifs <;> rfl

theorem prompt_readSlots (count : Nat) : IsPrompt (readSlots count) := by
  induction count using Nat.strongRecOn with
  | ind count induction =>
      match count with
      | 0 => exact prompt_answer (.ok [])
      | 1 =>
          rw [readSlots_one]
          exact prompt_readConstant.andThen fun constant => prompt_answer _
      | count + 2 =>
          rw [readSlots_add_two]
          refine prompt_readConstant.andThen fun constant => ?_
          have others : IsPrompt (readSlots (if constant.isWide then count else count + 1)) := by
            apply induction
            split_ifs <;> omega
          exact others.andThen fun slots => prompt_answer _

/-! ## Headers -/

/-- What a header holds before the reference to the super class. -/
structure Preamble where
  minorVersion : UInt16
  majorVersion : UInt16
  slots : Slots
  accessFlags : UInt16
  thisClass : UInt16

def readPreamble : Reader Preamble :=
  Reader.andThen (takeBytes 4) fun magic =>
    if magic ≠ classMagic then Reader.answer (.error .invalidMagic)
    else
      Reader.andThen readU2 fun minorVersion =>
      Reader.andThen readU2 fun majorVersion =>
      Reader.andThen readU2 fun count =>
      Reader.andThen (readSlots (count.toNat - 1)) fun slots =>
      Reader.andThen readU2 fun accessFlags =>
      Reader.andThen readU2 fun thisClass =>
      Reader.answer (.ok ⟨minorVersion, majorVersion, slots, accessFlags, thisClass⟩)

/-- The header whose super class a reference leads to. -/
def Preamble.header (preamble : Preamble) (superClass : UInt16) : Except HeaderError ClassHeader :=
  (preamble.slots.names preamble.thisClass superClass).map fun names =>
    ⟨preamble.minorVersion, preamble.majorVersion, preamble.accessFlags, names.1, names.2⟩

/-- Reads a header and leaves what follows the reference to the super class. -/
def readHeader : Reader ClassHeader :=
  Reader.andThen readPreamble fun preamble =>
    Reader.andThen readU2 fun superClass => Reader.answer (preamble.header superClass)

theorem prompt_readPreamble : IsPrompt readPreamble := by
  rw [readPreamble]
  refine (prompt_takeBytes 4).andThen fun magic => ?_
  split_ifs
  · exact prompt_answer _
  · exact prompt_readU2.andThen fun minorVersion => prompt_readU2.andThen fun majorVersion =>
      prompt_readU2.andThen fun count => (prompt_readSlots _).andThen fun slots =>
      prompt_readU2.andThen fun accessFlags => prompt_readU2.andThen fun thisClass =>
      prompt_answer _

theorem prompt_readHeader : IsPrompt readHeader :=
  prompt_readPreamble.andThen fun preamble => prompt_readU2.andThen fun superClass =>
    prompt_answer (preamble.header superClass)

theorem Reader.andThen_assoc {γ : Type} (reader : Reader α) (next : α → Reader β)
    (last : β → Reader γ) :
    (reader.andThen next).andThen last = reader.andThen fun value => (next value).andThen last := by
  funext bytes
  simp only [Reader.andThen, bind_assoc]

theorem Reader.map_andThen {γ : Type} (reader : Reader α) (next : α → Reader β) (bytes : Bytes)
    (change : β × Bytes → γ) :
    (reader.andThen next bytes).map change =
      reader bytes >>= fun read => (next read.1 read.2).map change := by
  rw [Reader.andThen]
  cases reader bytes <;> rfl

theorem Reader.map_answer (answer : Except HeaderError α) (bytes : Bytes) :
    (Reader.answer answer bytes).map Prod.fst = answer := by
  cases answer <;> rfl

theorem map_names (slots : Slots) (thisClass superClass : UInt16)
    (build : ClassName → Option ClassName → ClassHeader) :
    (do
      let name ← slots.className thisClass
      let superName ← slots.superName superClass
      .ok (build name superName)) =
      (slots.names thisClass superClass).map fun names => build names.1 names.2 := by
  rw [Slots.names]
  cases slots.className thisClass with
  | error error => rfl
  | ok name => cases slots.superName superClass <;> rfl

/-- A header is what its reader answers, without what follows. -/
theorem read_eq (bytes : Bytes) : ClassHeader.read bytes = (readHeader bytes).map Prod.fst := by
  rw [readHeader, readPreamble, Reader.andThen_assoc, Reader.map_andThen, ClassHeader.read]
  congr 1
  funext read
  obtain ⟨magic, rest⟩ := read
  by_cases foreign : magic ≠ classMagic
  · simp only [if_pos foreign]
    rfl
  · simp only [if_neg foreign, Reader.andThen_assoc, Reader.map_andThen, Reader.map_answer,
      Preamble.header, map_names]
    rfl

section Settled

variable {answer : Except HeaderError ClassHeader} (settles : Settles readHeader used answer)

include settles

theorem read_of_settles (tail : Bytes) : ClassHeader.read (used ++ tail) = answer := by
  rw [read_eq, settles.settled]
  cases answer <;> rfl

theorem read_of_short {front : Bytes} (begins : front <+: used) (fewer : front ≠ used) :
    ClassHeader.read front = .error .unexpectedEnd := by
  rw [read_eq, settles.short front begins fewer]
  rfl

end Settled

/-- Once octets are enough, others after them change nothing. -/
theorem read_append {bytes : Bytes} (enough : ClassHeader.read bytes ≠ .error .unexpectedEnd)
    (tail : Bytes) : ClassHeader.read (bytes ++ tail) = ClassHeader.read bytes := by
  rcases prompt_readHeader bytes with short | ⟨used, rest, answer, rfl, settles⟩
  · rw [read_eq, short] at enough
    exact absurd rfl enough
  · rw [List.append_assoc, read_of_settles settles, read_of_settles settles]

/-! ## Where a header ends -/

theorem IsPrompt.exists_front (prompt : IsPrompt reader) {bytes rest : Bytes} {value : α}
    (read : reader bytes = .ok (value, rest)) : ∃ front, bytes = front ++ rest := by
  rcases prompt bytes with short | ⟨used, left, answer, rfl, settles⟩
  · rw [short] at read
    cases read
  · rw [settles.settled] at read
    cases answer with
    | error error => cases read
    | ok value =>
        cases read
        exact ⟨used, rfl⟩

theorem Reader.andThen_eq_ok {bytes rest : Bytes} {value : β}
    (read : reader.andThen next bytes = .ok (value, rest)) :
    ∃ first middle, reader bytes = .ok (first, middle) ∧ next first middle = .ok (value, rest) := by
  rw [Reader.andThen] at read
  cases first : reader bytes with
  | error error =>
      rw [first] at read
      cases read
  | ok found =>
      rw [first] at read
      exact ⟨found.1, found.2, rfl, read⟩

theorem Reader.answer_eq_ok {answer : Except HeaderError α} {bytes rest : Bytes} {value : α}
    (read : Reader.answer answer bytes = .ok (value, rest)) : answer = .ok value ∧ bytes = rest := by
  cases answer with
  | error error => cases read
  | ok found =>
      cases read
      exact ⟨rfl, rfl⟩

theorem exists_of_readU2 {bytes rest : Bytes} {value : UInt16}
    (read : readU2 bytes = .ok (value, rest)) :
    ∃ high low, bytes = high :: low :: rest ∧ u2OfBytes high low = value := by
  match bytes, read with
  | high :: low :: _, rfl => exact ⟨high, low, rfl, rfl⟩

/-- The header of a class file ends after a number of octets. -/
structure EndsAt (bytes : Bytes) (header : ClassHeader) (count : Nat) : Prop where
  /-- There are so many octets. -/
  within : count ≤ bytes.length
  /-- The last two of them are the reference to the super class, read after everything else. -/
  reference : ∃ front high low rest preamble, bytes = front ++ high :: low :: rest ∧
    count = front.length + 2 ∧ readPreamble bytes = .ok (preamble, high :: low :: rest) ∧
    preamble.header (u2OfBytes high low) = .ok header
  /-- With fewer octets the file is cut short. -/
  short : ∀ size < count, ClassHeader.read (bytes.take size) = .error .unexpectedEnd
  /-- With no fewer octets it has this header. -/
  whole : ∀ size, count ≤ size → ClassHeader.read (bytes.take size) = .ok header

theorem exists_endsAt {bytes : Bytes} {header : ClassHeader}
    (read : ClassHeader.read bytes = .ok header) : ∃ count, EndsAt bytes header count := by
  rcases prompt_readHeader bytes with short | ⟨used, rest, answer, rfl, settles⟩
  · rw [read_eq, short] at read
    cases read
  · obtain rfl := (read_of_settles settles rest).symm.trans read
    obtain ⟨preamble, middle, begun, ended⟩ := Reader.andThen_eq_ok (settles.settled rest)
    obtain ⟨superClass, left, linked, named⟩ := Reader.andThen_eq_ok ended
    obtain ⟨high, low, rfl, rfl⟩ := exists_of_readU2 linked
    obtain ⟨found, rfl⟩ := Reader.answer_eq_ok named
    obtain ⟨front, split⟩ := prompt_readPreamble.exists_front begun
    have used_eq : used = front ++ [high, low] := by
      refine List.append_cancel_right (split.trans ?_)
      rw [List.append_assoc, List.cons_append, List.singleton_append]
    have count_eq : used.length = front.length + 2 := by
      rw [used_eq, List.length_append]
      rfl
    refine ⟨used.length, ?within, ⟨front, high, low, left, preamble, split, count_eq, begun, found⟩,
      ?short, ?whole⟩
    case within => exact (List.prefix_append used left).length_le
    case short =>
      intro size fewer
      rw [List.take_append_of_le_length (Nat.le_of_lt fewer)]
      refine read_of_short settles (List.take_prefix size used) fun same => ?_
      have shortened := congrArg List.length same
      rw [List.length_take] at shortened
      omega
    case whole =>
      intro size enough
      obtain ⟨more, rfl⟩ := Nat.exists_eq_add_of_le enough
      rw [List.take_length_add_append]
      exact read_of_settles settles _

/-- What octets are read as, once they are enough, does not depend on what follows, and a header
that is read ends somewhere: with fewer octets the file is cut short, and with as many or more it is
the same header.  So the beginning of a file is cut short or read as the whole is. -/
theorem reads_beginnings (bytes : Bytes) :
    (∀ tail, ClassHeader.read bytes ≠ .error .unexpectedEnd →
      ClassHeader.read (bytes ++ tail) = ClassHeader.read bytes) ∧
    (∀ header, ClassHeader.read bytes = .ok header → ∃ count, EndsAt bytes header count) ∧
    ∀ size, ClassHeader.read (bytes.take size) = .error .unexpectedEnd ∨
      ClassHeader.read (bytes.take size) = ClassHeader.read bytes := by
  refine ⟨fun tail enough => read_append enough tail, fun header => exists_endsAt, fun size => ?_⟩
  by_cases short : ClassHeader.read (bytes.take size) = .error .unexpectedEnd
  · exact .inl short
  · right
    have whole := read_append short (bytes.drop size)
    rw [List.take_append_drop] at whole
    exact whole.symm

/-- The header of the class `A` with the super class `B` ends after thirty octets. -/
theorem reads_beginnings_minimal :
    ∃ header, header.name.dotted = "A" ∧ EndsAt (minimalFile "A" "B") header 30 ∧
      ClassHeader.read (minimalFile "A" "B" ++ [0xff]) = .ok header := by
  have read : ClassHeader.read (minimalFile "A" "B") =
      .ok ⟨0, 61, 0x21, ⟨["A"], by decide, by decide⟩, some ⟨["B"], by decide, by decide⟩⟩ := rfl
  obtain ⟨follow, ends, -⟩ := reads_beginnings (minimalFile "A" "B")
  obtain ⟨count, ended⟩ := ends _ read
  have below : ¬ 30 < count := by
    intro late
    cases ended.short 30 late
  have above : ¬ count ≤ 29 := by
    intro early
    cases ended.whole 29 early
  obtain rfl : count = 30 := by omega
  refine ⟨_, rfl, ended, ?_⟩
  rw [← read]
  apply follow
  rw [read]
  nofun

end ClassFile
end ClassEnhancement
