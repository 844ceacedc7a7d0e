import ClassEnhancement.Enhance.Delivery
import ClassEnhancement.Enhance.Transformer
import Mathlib.Data.List.TakeWhile

/-!
# Draining through a buffer

It does not matter how a stream is cut into blocks, nor how much of them a buffer and a chunk hold.
Each read takes the first delivery of the same stream, cut in another way, so draining comes to what
reading block by block comes to: all data before the first empty block, or the first error before
it that is no interruption.
-/

namespace ClassEnhancement

/-! ## What deliveries come to -/

namespace Delivery

variable {deliveries others before left : List Delivery} {delivery : Delivery}
  {block front back : Bytes} {result : Except FileError Bytes}

/-- Octets that a delivery brings. -/
def octets : Delivery → Bytes
  | .data block => block
  | _ => []

/-- Octets that deliveries bring, in order. -/
def octetsOf (deliveries : List Delivery) : Bytes := deliveries.flatMap octets

theorem octetsOf_append (deliveries others : List Delivery) :
    octetsOf (deliveries ++ others) = octetsOf deliveries ++ octetsOf others :=
  List.flatMap_append

/-- A delivery that only asks for another attempt. -/
def IsInterruption (delivery : Delivery) : Prop :=
  delivery = .interrupted ∨ delivery = .failed (.system .interrupted)

instance (delivery : Delivery) : Decidable delivery.IsInterruption :=
  inferInstanceAs (Decidable (_ ∨ _))

theorem IsInterruption.octets_eq (interruption : delivery.IsInterruption) :
    delivery.octets = [] := by
  rcases interruption with rfl | rfl <;> rfl

/-- A delivery after which reading goes on: it brings octets, or it is an interruption. -/
def GoesOn (delivery : Delivery) : Prop := delivery.octets ≠ [] ∨ delivery.IsInterruption

instance (delivery : Delivery) : Decidable delivery.GoesOn := inferInstanceAs (Decidable (_ ∨ _))

/-- What deliveries come to. -/
inductive ReadsAs : List Delivery → Except FileError Bytes → Prop
  /-- Reading goes on until the stream has nothing more: all data. -/
  | throughout {deliveries : List Delivery} (goes_on : ∀ delivery ∈ deliveries, delivery.GoesOn) :
      ReadsAs deliveries (.ok (octetsOf deliveries))
  /-- Reading goes on until an empty block: all data before it. -/
  | toEmptyBlock {before : List Delivery} (goes_on : ∀ delivery ∈ before, delivery.GoesOn)
      (after : List Delivery) : ReadsAs (before ++ .data [] :: after) (.ok (octetsOf before))
  /-- Reading goes on until an error that is no interruption: that error. -/
  | toError {before : List Delivery} (goes_on : ∀ delivery ∈ before, delivery.GoesOn)
      {cause : FileError} (no_interruption : cause ≠ .system .interrupted)
      (after : List Delivery) : ReadsAs (before ++ .failed cause :: after) (.error cause)

/-! ## Reading block by block -/

/-- What deliveries come to when they are read block by block, after some octets. -/
def blockwise (front : Bytes) : List Delivery → Except FileError Bytes
  | [] => .ok front
  | delivery :: rest =>
    if delivery.GoesOn then blockwise (front ++ delivery.octets) rest
    else match delivery with
      | .failed cause => .error cause
      | _ => .ok front

theorem goesOn_data (some_octets : block ≠ []) : GoesOn (.data block) := .inl some_octets

theorem not_goesOn_failed {cause : FileError} (no_interruption : cause ≠ .system .interrupted) :
    ¬ GoesOn (.failed cause) := by
  simp [GoesOn, IsInterruption, octets, no_interruption]

theorem blockwise_cons_of_goesOn (goes_on : delivery.GoesOn) (front : Bytes)
    (rest : List Delivery) :
    blockwise front (delivery :: rest) = blockwise (front ++ delivery.octets) rest :=
  if_pos goes_on

theorem blockwise_data (some_octets : block ≠ []) (front : Bytes) (rest : List Delivery) :
    blockwise front (.data block :: rest) = blockwise (front ++ block) rest :=
  blockwise_cons_of_goesOn (goesOn_data some_octets) front rest

theorem blockwise_interruption (interruption : delivery.IsInterruption) (front : Bytes)
    (rest : List Delivery) : blockwise front (delivery :: rest) = blockwise front rest := by
  rw [blockwise_cons_of_goesOn (.inr interruption), interruption.octets_eq, List.append_nil]

theorem blockwise_failed {cause : FileError} (no_interruption : cause ≠ .system .interrupted)
    (front : Bytes) (rest : List Delivery) :
    blockwise front (.failed cause :: rest) = .error cause :=
  if_neg (not_goesOn_failed no_interruption)

theorem blockwise_append (goes_on : ∀ delivery ∈ before, delivery.GoesOn) (front : Bytes)
    (after : List Delivery) :
    blockwise front (before ++ after) = blockwise (front ++ octetsOf before) after := by
  induction before generalizing front with
  | nil => simp [octetsOf]
  | cons delivery before hypothesis =>
      obtain ⟨first, others⟩ := List.forall_mem_cons.mp goes_on
      rw [List.cons_append, blockwise_cons_of_goesOn first, hypothesis others]
      simp [octetsOf]

/-- Deliveries are split where reading does not go on. -/
theorem exists_goesOn_append (deliveries : List Delivery) :
    ∃ before after, deliveries = before ++ after ∧ (∀ delivery ∈ before, delivery.GoesOn) ∧
      ∀ delivery ∈ after.head?, ¬ delivery.GoesOn := by
  refine ⟨deliveries.takeWhile fun delivery => delivery.GoesOn,
    deliveries.dropWhile fun delivery => delivery.GoesOn,
    List.takeWhile_append_dropWhile.symm, ?_, ?_⟩
  · intro delivery member
    simpa using List.mem_takeWhile_imp member
  · intro delivery head
    have stops := List.head?_dropWhile_not (fun delivery => decide delivery.GoesOn) deliveries
    rw [Option.mem_def.mp head] at stops
    simpa using stops

theorem readsAs_blockwise (deliveries : List Delivery) :
    ReadsAs deliveries (blockwise [] deliveries) := by
  obtain ⟨before, after, rfl, goes_on, stops⟩ := exists_goesOn_append deliveries
  rw [blockwise_append goes_on, List.nil_append]
  match after with
  | [] =>
      rw [List.append_nil]
      exact .throughout goes_on
  | delivery :: after =>
      have stops : ¬ delivery.GoesOn := stops delivery rfl
      match delivery with
      | .data [] => exact .toEmptyBlock goes_on after
      | .data (first :: block) => exact absurd (goesOn_data (List.cons_ne_nil _ _)) stops
      | .interrupted => exact absurd (.inr (.inl rfl)) stops
      | .failed cause =>
          have no_interruption : cause ≠ .system .interrupted := by
            rintro rfl
            exact stops (.inr (.inr rfl))
          rw [blockwise_failed no_interruption]
          exact .toError goes_on no_interruption after

/-- Reading block by block comes to what the deliveries come to. -/
theorem blockwise_eq_iff : blockwise [] deliveries = result ↔ ReadsAs deliveries result := by
  constructor
  · rintro rfl
    exact readsAs_blockwise deliveries
  · intro reads_as
    cases reads_as with
    | throughout goes_on => simpa [blockwise] using blockwise_append goes_on [] []
    | toEmptyBlock goes_on after =>
        rw [blockwise_append goes_on]
        rfl
    | toError goes_on no_interruption after =>
        rw [blockwise_append goes_on, blockwise_failed no_interruption]

/-- Interruptions do not show. -/
theorem blockwise_filter (front : Bytes) (deliveries : List Delivery) :
    blockwise front (deliveries.filter fun delivery => ¬ delivery.IsInterruption) =
      blockwise front deliveries := by
  induction deliveries generalizing front with
  | nil => rfl
  | cons delivery rest hypothesis =>
      by_cases interruption : delivery.IsInterruption
      · rw [List.filter_cons_of_neg (by simpa using interruption), hypothesis,
          blockwise_interruption interruption]
      · rw [List.filter_cons_of_pos (by simpa using interruption)]
        simp only [blockwise, hypothesis]

/-! ## Cutting data in another way -/

/-- Deliveries of the same data, which is cut into blocks in another way. -/
inductive Recut : List Delivery → List Delivery → Prop
  /-- The same blocks. -/
  | refl (deliveries : List Delivery) : Recut deliveries deliveries
  /-- The other way round. -/
  | symm {deliveries others : List Delivery} : Recut deliveries others → Recut others deliveries
  /-- One change after another. -/
  | trans {deliveries others third : List Delivery} :
      Recut deliveries others → Recut others third → Recut deliveries third
  /-- A block is cut in two. -/
  | cut {left right : Bytes} (some_left : left ≠ []) (some_right : right ≠ [])
      (after : List Delivery) :
      Recut (.data (left ++ right) :: after) (.data left :: .data right :: after)
  /-- What follows is cut in another way. -/
  | cons (delivery : Delivery) {deliveries others : List Delivery} :
      Recut deliveries others → Recut (delivery :: deliveries) (delivery :: others)

/-- The octets stay, in their order. -/
theorem Recut.octetsOf_eq (recut : Recut deliveries others) :
    octetsOf deliveries = octetsOf others := by
  induction recut with
  | refl => rfl
  | symm _ hypothesis => exact hypothesis.symm
  | trans _ _ first second => exact first.trans second
  | cut some_left some_right after => simp [octetsOf, octets]
  | cons delivery _ hypothesis => simpa [octetsOf] using hypothesis

theorem Recut.append_left (recut : Recut deliveries others) (before : List Delivery) :
    Recut (before ++ deliveries) (before ++ others) := by
  induction before with
  | nil => exact recut
  | cons delivery before hypothesis => exact .cons delivery hypothesis

/-- Octets that are put back may be cut anywhere. -/
theorem recut_putBack (front back : Bytes) (after : List Delivery) :
    Recut (putBack (front ++ back) after) (putBack front (putBack back after)) := by
  by_cases no_front : front = []
  · subst no_front
    exact .refl _
  · by_cases no_back : back = []
    · subst no_back
      rw [List.append_nil, putBack_nil]
      exact .refl _
    · have both : front ++ back ≠ [] := by simp [no_front]
      rw [putBack_of_ne no_front, putBack_of_ne no_back, putBack_of_ne both]
      exact .cut no_front no_back after

theorem Recut.putBack (recut : Recut deliveries others) (front : Bytes) :
    Recut (putBack front deliveries) (putBack front others) := by
  cases front with
  | nil => exact recut
  | cons first front => exact .cons _ recut

theorem blockwise_eq_of_recut (recut : Recut deliveries others) (front : Bytes) :
    blockwise front deliveries = blockwise front others := by
  induction recut generalizing front with
  | refl => rfl
  | symm _ hypothesis => exact (hypothesis front).symm
  | trans _ _ first second => exact (first front).trans (second front)
  | @cut left right some_left some_right after =>
      have both : left ++ right ≠ [] := by simp [some_left]
      rw [blockwise_data some_left, blockwise_data some_right, blockwise_data both,
        List.append_assoc]
  | cons delivery _ hypothesis => simp only [blockwise, hypothesis]

/-- The first deliveries, cut in some way, bring some octets, and others are left. -/
def Yields (deliveries : List Delivery) (front : Bytes) (left : List Delivery) : Prop :=
  ∃ before, (∀ delivery ∈ before, delivery.GoesOn) ∧ octetsOf before = front ∧
    Recut deliveries (before ++ left)

theorem Yields.refl (deliveries : List Delivery) : Yields deliveries [] deliveries :=
  ⟨[], nofun, rfl, .refl _⟩

theorem Yields.first (goes_on : delivery.GoesOn) (recut : Recut deliveries (delivery :: left)) :
    Yields deliveries delivery.octets left :=
  ⟨[delivery], by simpa using goes_on, by simp [octetsOf], recut⟩

theorem Yields.trans (yields : Yields deliveries front left) (more : Yields left back others) :
    Yields deliveries (front ++ back) others := by
  obtain ⟨before, goes_on, rfl, recut⟩ := yields
  obtain ⟨between, goes_on', rfl, recut'⟩ := more
  refine ⟨before ++ between, ?_, octetsOf_append before between, ?_⟩
  · exact List.forall_mem_append.mpr ⟨goes_on, goes_on'⟩
  · rw [List.append_assoc]
    exact recut.trans (recut'.append_left before)

theorem Yields.octetsOf_eq (yields : Yields deliveries front left) :
    front ++ octetsOf left = octetsOf deliveries := by
  obtain ⟨before, -, rfl, recut⟩ := yields
  rw [recut.octetsOf_eq, octetsOf_append]

theorem Yields.blockwise_eq (yields : Yields deliveries back left) (front : Bytes) :
    blockwise front deliveries = blockwise (front ++ back) left := by
  obtain ⟨before, goes_on, rfl, recut⟩ := yields
  rw [blockwise_eq_of_recut recut, blockwise_append goes_on]

end Delivery

/-! ## Reading chunk by chunk -/

namespace BufferedStream

open Delivery

variable {sizes : ReadSizes} {stream rest : BufferedStream} {front chunk : Bytes}
  {deliveries : List Delivery}

/-- What a stream has still to deliver, the buffer first. -/
def toDeliver (stream : BufferedStream) : List Delivery :=
  putBack stream.buffered stream.deliveries

/-- A chunk is the beginning of what the stream delivers, and the rest is still to be delivered. -/
theorem yields_of_read_chunk (read : stream.read sizes = (.ok chunk, rest))
    (some_octets : chunk ≠ []) : Yields stream.toDeliver chunk rest.toDeliver := by
  refine .first (goesOn_data some_octets) ?_
  rw [← putBack_of_ne some_octets]
  match stream with
  | ⟨first :: buffered, deliveries⟩ =>
      obtain ⟨rfl, rfl⟩ := read
      have cut := recut_putBack ((first :: buffered).take sizes.chunk)
        ((first :: buffered).drop sizes.chunk) deliveries
      rwa [List.take_append_drop] at cut
  | ⟨[], []⟩ =>
      obtain ⟨rfl, rfl⟩ := read
      exact absurd List.take_nil some_octets
  | ⟨[], .interrupted :: deliveries⟩ | ⟨[], .failed cause :: deliveries⟩ => cases read
  | ⟨[], .data block :: deliveries⟩ =>
      obtain ⟨rfl, rfl⟩ := read
      have some_block : block ≠ [] := by
        rintro rfl
        simp at some_octets
      -- The block falls into the chunk, what stays in the buffer and what the stream keeps.
      have taken := recut_putBack ((block.take sizes.room).take sizes.chunk)
        ((block.take sizes.room).drop sizes.chunk ++ block.drop sizes.room) deliveries
      have kept := recut_putBack ((block.take sizes.room).drop sizes.chunk)
        (block.drop sizes.room) deliveries
      rw [← List.append_assoc, List.take_append_drop, List.take_append_drop,
        putBack_of_ne some_block] at taken
      exact taken.trans (kept.putBack _)

/-- An error is the first delivery of the stream. -/
theorem toDeliver_of_read_error {cause : FileError}
    (read : stream.read sizes = (.error cause, rest)) :
    stream.toDeliver = .failed cause :: rest.toDeliver ∨
      cause = .system .interrupted ∧ stream.toDeliver = .interrupted :: rest.toDeliver := by
  match stream with
  | ⟨first :: buffered, deliveries⟩ | ⟨[], []⟩ | ⟨[], .data block :: deliveries⟩ => cases read
  | ⟨[], .interrupted :: deliveries⟩ =>
      cases read
      exact .inr ⟨rfl, rfl⟩
  | ⟨[], .failed cause :: deliveries⟩ =>
      cases read
      exact .inl rfl

theorem yields_of_read_interruption
    (read : stream.read sizes = (.error (.system .interrupted), rest)) :
    Yields stream.toDeliver [] rest.toDeliver := by
  rcases toDeliver_of_read_error read with first | ⟨-, first⟩ <;> rw [first]
  · exact .first (.inr (.inr rfl)) (.refl _)
  · exact .first (.inr (.inl rfl)) (.refl _)

/-- A read is empty at the end of the stream and at an empty block. -/
theorem toDeliver_of_read_empty (read : stream.read sizes = (.ok [], rest)) :
    stream.toDeliver = [] ∨ ∃ after, stream.toDeliver = .data [] :: after := by
  have chunk_pos := sizes.chunk_pos
  have chunk_le_room := sizes.chunk_le_room
  match stream with
  | ⟨first :: buffered, deliveries⟩ =>
      have nothing : (first :: buffered).take sizes.chunk = [] :=
        Except.ok.inj (congrArg Prod.fst read)
      have no_room : sizes.chunk = 0 := by simpa using nothing
      omega
  | ⟨[], []⟩ => exact .inl rfl
  | ⟨[], .data [] :: deliveries⟩ => exact .inr ⟨deliveries, rfl⟩
  | ⟨[], .data (first :: block) :: deliveries⟩ =>
      have nothing : ((first :: block).take sizes.room).take sizes.chunk = [] :=
        Except.ok.inj (congrArg Prod.fst read)
      have no_room : sizes.chunk = 0 ∨ sizes.room = 0 := by simpa using nothing
      omega
  | ⟨[], .interrupted :: deliveries⟩ | ⟨[], .failed cause :: deliveries⟩ => cases read

/-- Draining a stream comes to what reading it block by block comes to. -/
theorem drain_eq_blockwise (sizes : ReadSizes) (front : Bytes) (stream : BufferedStream) :
    stream.drain sizes front = blockwise front stream.toDeliver := by
  fun_induction drain sizes front stream with
  | case1 front stream rest read =>
      rcases toDeliver_of_read_empty read with nothing | ⟨after, empty⟩
      · rw [nothing, blockwise]
      · rw [empty]
        rfl
  | case2 front stream first chunk rest read hypothesis =>
      have yields := yields_of_read_chunk read (List.cons_ne_nil _ _)
      rw [hypothesis, yields.blockwise_eq]
  | case3 front stream rest read hypothesis =>
      have yields := yields_of_read_interruption read
      rw [hypothesis, yields.blockwise_eq, List.append_nil]
  | case4 front stream cause rest read no_interruption =>
      rcases toDeliver_of_read_error read with failed | ⟨interrupted, -⟩
      · rw [failed, blockwise_failed no_interruption]
      · exact absurd interrupted no_interruption

/-- The moments of draining: what was read so far, and the stream that is left. -/
inductive Passes (sizes : ReadSizes) (deliveries : List Delivery) : Bytes → BufferedStream → Prop
  /-- Nothing was read. -/
  | start : Passes sizes deliveries [] ⟨[], deliveries⟩
  /-- A chunk is read. -/
  | chunk {front chunk : Bytes} {stream rest : BufferedStream} :
      Passes sizes deliveries front stream → stream.read sizes = (.ok chunk, rest) → chunk ≠ [] →
      Passes sizes deliveries (front ++ chunk) rest
  /-- An interruption is passed over. -/
  | interruption {front : Bytes} {stream rest : BufferedStream} :
      Passes sizes deliveries front stream →
      stream.read sizes = (.error (.system .interrupted), rest) →
      Passes sizes deliveries front rest

/-- What was read is what was delivered so far, and the rest is still to be delivered. -/
theorem Passes.yields (passes : Passes sizes deliveries front stream) :
    Yields deliveries front stream.toDeliver := by
  induction passes with
  | start => exact .refl deliveries
  | chunk _ read some_octets hypothesis =>
      exact hypothesis.trans (yields_of_read_chunk read some_octets)
  | interruption _ read hypothesis =>
      simpa using hypothesis.trans (yields_of_read_interruption read)

end BufferedStream

/-! ## Results -/

open Delivery BufferedStream

theorem drain_eq (sizes : ReadSizes) (deliveries : List Delivery) :
    drain sizes deliveries = blockwise [] deliveries :=
  drain_eq_blockwise sizes [] ⟨[], deliveries⟩

/-- What draining a stream comes to. -/
structure Drains (sizes : ReadSizes) (deliveries : List Delivery) : Prop where
  /-- All data before the first empty block or the end, or the first error before it that is no
  interruption. -/
  result : ∀ result, drain sizes deliveries = result ↔ ReadsAs deliveries result
  /-- At every moment, what was read is what was delivered so far, and draining goes on with the
  rest. -/
  moments : ∀ front stream, Passes sizes deliveries front stream →
    Yields deliveries front stream.toDeliver ∧ stream.drain sizes front = drain sizes deliveries
  /-- At every moment, each octet was either read or is still to be delivered, and all of them are
  in order. -/
  keeps : ∀ front stream, Passes sizes deliveries front stream →
    front ++ octetsOf stream.toDeliver = octetsOf deliveries
  /-- More or fewer interruptions anywhere change nothing. -/
  patient : ∀ others : List Delivery,
    (others.filter fun delivery => ¬ delivery.IsInterruption) =
      (deliveries.filter fun delivery => ¬ delivery.IsInterruption) →
    drain sizes others = drain sizes deliveries
  /-- Neither does another way to cut the data into blocks. -/
  recut : ∀ others : List Delivery, Recut deliveries others →
    drain sizes others = drain sizes deliveries
  /-- Neither do other sizes of the buffer and of the chunks. -/
  resized : ∀ others : ReadSizes, drain others deliveries = drain sizes deliveries

/-- No octet of a stream is lost, repeated or out of order. -/
theorem drains_in_chunks (sizes : ReadSizes) (deliveries : List Delivery) :
    Drains sizes deliveries where
  result result := by rw [drain_eq, blockwise_eq_iff]
  moments front stream passes := by
    have yields := passes.yields
    refine ⟨yields, ?_⟩
    rw [drain_eq_blockwise, drain_eq, yields.blockwise_eq, List.nil_append]
  keeps front stream passes := passes.yields.octetsOf_eq
  patient others same := by
    rw [drain_eq, drain_eq, ← blockwise_filter [] others, same, blockwise_filter]
  recut others recut := by rw [drain_eq, drain_eq, blockwise_eq_of_recut recut]
  resized others := by rw [drain_eq, drain_eq]

example : drain ⟨4, 3, by decide⟩
    [.data [1, 2, 3, 4, 5], .interrupted, .data [6], .data [], .failed .notText] =
      .ok [1, 2, 3, 4, 5, 6] := by cbv

/-! ## Class files -/

/-- A file as a delivery: its contents in one block, or why it cannot be read. -/
def Delivery.ofContent : Except FileError Bytes → Delivery
  | .ok content => .data content
  | .error cause => .failed cause

theorem drain_ofContent {content : Except FileError Bytes}
    (uninterrupted : content ≠ .error (.system .interrupted)) (sizes : ReadSizes) :
    drain sizes [.ofContent content] = content := by
  rw [drain_eq]
  match content with
  | .ok [] => rfl
  | .ok (first :: block) => exact blockwise_data (List.cons_ne_nil _ _) [] []
  | .error cause =>
      exact blockwise_failed (fun same => uninterrupted (congrArg Except.error same)) [] []

/-- A compiled file that can be opened is read as a stream. -/
theorem Workbench.openClass_eq_readClass {tree : FileTree} {file : FilePath} {location : Location}
    (located : tree.locate file = .ok location) (name : ClassName) :
    openClass tree name file =
      readClass name.dotted [.ofContent (tree.contentAt location)] := by
  have uninterrupted : tree.contentAt location ≠ .error (.system .interrupted) := by
    unfold FileTree.contentAt
    split <;> simp
  have drained := drain_ofContent uninterrupted .ofClass
  cases content : tree.contentAt location
  all_goals
    rw [content] at drained
    simp only [openClass, located, content, readClass, drained]

end ClassEnhancement
