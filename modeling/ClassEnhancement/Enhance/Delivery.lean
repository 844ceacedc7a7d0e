import ClassEnhancement.Enhance.Error
import ClassEnhancement.Text.Utf8

/-!
# Draining a stream

A stream delivers blocks of data.  It is read in chunks of one size through a buffer of another: a
chunk takes octets from the buffer, and one read of the stream fills the buffer again where nothing
is left in it.  Interruptions are passed over, an empty read ends the stream, and any other error
ends reading.
-/

namespace ClassEnhancement

/-- One delivery of a stream. -/
inductive Delivery where
  /-- A block of data. -/
  | data (block : Bytes)
  /-- Nothing yet. -/
  | interrupted
  /-- An error. -/
  | failed (cause : FileError)
  deriving DecidableEq, Repr

namespace Delivery

/-- Octets that are left come before what is delivered next. -/
def putBack : Bytes → List Delivery → List Delivery
  | [], deliveries => deliveries
  | first :: block, deliveries => .data (first :: block) :: deliveries

@[simp]
theorem putBack_nil (deliveries : List Delivery) : putBack [] deliveries = deliveries := rfl

theorem putBack_of_ne {block : Bytes} (some_octets : block ≠ []) (deliveries : List Delivery) :
    putBack block deliveries = .data block :: deliveries := by
  cases block with
  | nil => exact absurd rfl some_octets
  | cons first block => rfl

/-- One read of a stream, with room for some octets: what a block holds beyond them is left for the
next read.  A stream that delivers nothing more gives an empty block. -/
def next (room : Nat) : List Delivery → Except FileError Bytes × List Delivery
  | [] => (.ok [], [])
  | .data block :: rest => (.ok (block.take room), putBack (block.drop room) rest)
  | .interrupted :: rest => (.error (.system .interrupted), rest)
  | .failed cause :: rest => (.error cause, rest)

/-- How many reads a delivery can answer at most. -/
def weight : Delivery → Nat
  | .data block => block.length + 1
  | _ => 1

/-- How many reads deliveries can answer at most. -/
def totalWeight : List Delivery → Nat
  | [] => 0
  | delivery :: rest => delivery.weight + totalWeight rest

@[simp]
theorem totalWeight_cons (delivery : Delivery) (rest : List Delivery) :
    totalWeight (delivery :: rest) = delivery.weight + totalWeight rest := rfl

theorem totalWeight_putBack_le (block : Bytes) (deliveries : List Delivery) :
    totalWeight (putBack block deliveries) ≤ block.length + 1 + totalWeight deliveries := by
  cases block with
  | nil => simp
  | cons first block => simp [putBack, weight]

end Delivery

/-- Sizes with which a stream is read. -/
structure ReadSizes where
  /-- How many octets the buffer holds. -/
  buffer : Nat
  /-- How many octets a chunk takes at most. -/
  chunk : Nat
  /-- A chunk has room for something. -/
  chunk_pos : 0 < chunk

/-- Sizes with which the bytes of a class are read. -/
def ReadSizes.ofClass : ReadSizes := ⟨8192, 1028, by decide⟩

/-- Room that the stream is given where the buffer is empty: a chunk that is no smaller than the
buffer goes past it. -/
def ReadSizes.room (sizes : ReadSizes) : Nat := max sizes.buffer sizes.chunk

theorem ReadSizes.chunk_le_room (sizes : ReadSizes) : sizes.chunk ≤ sizes.room :=
  Nat.le_max_right _ _

/-- A stream behind a buffer. -/
structure BufferedStream where
  /-- Octets that stand in the buffer. -/
  buffered : Bytes
  /-- What the stream goes on to deliver. -/
  deliveries : List Delivery

namespace BufferedStream

variable {sizes : ReadSizes} {stream rest : BufferedStream}

/-- Reads one chunk. -/
def read (sizes : ReadSizes) : BufferedStream → Except FileError Bytes × BufferedStream
  | ⟨[], deliveries⟩ =>
    match Delivery.next sizes.room deliveries with
    | (.ok block, rest) => (.ok (block.take sizes.chunk), ⟨block.drop sizes.chunk, rest⟩)
    | (.error cause, rest) => (.error cause, ⟨[], rest⟩)
  | ⟨buffered, deliveries⟩ =>
    (.ok (buffered.take sizes.chunk), ⟨buffered.drop sizes.chunk, deliveries⟩)

/-- How many reads a stream can answer at most. -/
def weight (stream : BufferedStream) : Nat :=
  stream.buffered.length + Delivery.totalWeight stream.deliveries

/-- A read that is no empty one leaves fewer reads to come. -/
theorem weight_lt_of_read {answer : Except FileError Bytes}
    (read : stream.read sizes = (answer, rest)) (goes_on : answer ≠ .ok []) :
    rest.weight < stream.weight := by
  have chunk_pos := sizes.chunk_pos
  have chunk_le_room := sizes.chunk_le_room
  match stream with
  | ⟨first :: buffered, deliveries⟩ =>
    obtain ⟨rfl, rfl⟩ := read
    simp only [weight, List.length_drop, List.length_cons]
    omega
  | ⟨[], []⟩ =>
    obtain ⟨rfl, rfl⟩ := read
    exact (goes_on (by simp)).elim
  | ⟨[], .interrupted :: deliveries⟩ | ⟨[], .failed cause :: deliveries⟩ =>
    obtain ⟨rfl, rfl⟩ := read
    simp [weight, Delivery.weight]
  | ⟨[], .data [] :: deliveries⟩ =>
    obtain ⟨rfl, rfl⟩ := read
    exact (goes_on (by simp)).elim
  | ⟨[], .data (first :: block) :: deliveries⟩ =>
    obtain ⟨rfl, rfl⟩ := read
    have left := Delivery.totalWeight_putBack_le ((first :: block).drop sizes.room) deliveries
    simp only [List.length_drop, List.length_cons] at left
    simp only [weight, Delivery.totalWeight_cons, Delivery.weight, List.length_drop,
      List.length_take, List.length_cons, List.length_nil]
    omega

/-- All octets of a stream up to its first empty read, after those that were read before. -/
def drain (sizes : ReadSizes) (front : Bytes) (stream : BufferedStream) : Except FileError Bytes :=
  match _ : stream.read sizes with
  | (.ok [], _) => .ok front
  | (.ok (first :: chunk), rest) => rest.drain sizes (front ++ first :: chunk)
  | (.error cause, rest) =>
    if cause = .system .interrupted then rest.drain sizes front else .error cause
termination_by stream.weight
decreasing_by all_goals exact weight_lt_of_read ‹_› (by simp)

end BufferedStream

/-- All data up to the end of a stream, or its first error. -/
def drain (sizes : ReadSizes) (deliveries : List Delivery) : Except FileError Bytes :=
  BufferedStream.drain sizes [] ⟨[], deliveries⟩

/-- Reads the bytes of a class from a stream. -/
def readClass (name : String) (deliveries : List Delivery) : Except TransformError Bytes :=
  match drain .ofClass deliveries with
  | .ok bytes => .ok bytes
  | .error cause => .error (.cannotRead name cause)

end ClassEnhancement
