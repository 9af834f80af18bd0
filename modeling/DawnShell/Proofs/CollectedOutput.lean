/-
Module: DawnShell.Proofs.CollectedOutput
Layer: Proofs
Purpose: What an output collector has after any sequence of reads: the first bytes that it has room for,
  or the last ones, which are in a circular buffer.
Trusted boundary: none
Main exports: OutputCollector.Head, OutputCollector.Tail, BehindNewline, output_collected
-/
import DawnShell.Lib.RingBuffer
import DawnShell.App.OutputCollector

namespace DawnShell.App

open Java

/-- What stands behind the first newline; nothing when there is none. -/
inductive BehindNewline (bytes : JavaBytes) : JavaBytes → Prop where
  | found {line rest : JavaBytes} (split : bytes = line ++ 0x0a :: rest) (first : 0x0a ∉ line) :
      BehindNewline bytes rest
  | absent (none : 0x0a ∉ bytes) : BehindNewline bytes []

namespace OutputCollector

variable {capacity : Nat} {received source : JavaBytes} {collector : OutputCollector} {byte : UInt8}
  {reads : List StreamRead}

/-- A collector of the beginning. -/
structure Head (capacity : Nat) (received : JavaBytes) (collector : OutputCollector) : Prop where
  retains : collector.retainTail = false
  size : collector.bytes.length = capacity
  start : collector.start = 0
  filled : collector.length = min received.length capacity
  kept : collector.bytes.take collector.length = received.take capacity
  whole : collector.truncated = false

/-- A collector of the end. -/
structure Tail (capacity : Nat) (received : JavaBytes) (collector : OutputCollector) : Prop where
  retains : collector.retainTail = true
  size : collector.bytes.length = capacity
  inside : collector.start < capacity
  filled : collector.length = min received.length capacity
  kept : Ring.contents collector.bytes collector.start collector.length = received.rtake capacity
  cut : collector.truncated = true ↔ capacity < received.length

/-- What is kept behind an omission begins behind the first newline, or is everything when there is
none. -/
theorem behindNewline_spec (bytes : JavaBytes) : BehindNewline bytes (behindNewline bytes) := by
  rw [behindNewline]
  by_cases member : 0x0a ∈ bytes
  · obtain ⟨line, rest, rfl, first⟩ := List.eq_append_cons_of_mem member
    have skipped : ∀ byte ∈ line, (byte != 0x0a) = true := by
      intro byte within
      rw [bne_iff_ne]
      rintro rfl
      exact first within
    rw [List.dropWhile_append_of_pos skipped]
    exact .found rfl first
  · have skipped : ∀ byte ∈ bytes, (byte != 0x0a) = true := by
      intro byte within
      rw [bne_iff_ne]
      rintro rfl
      exact member within
    rw [List.dropWhile_eq_nil_iff.mpr skipped]
    exact .absent member

/-- The two copies put the elements of the circular buffer into their order. -/
theorem collected_eq (inside : collector.start < collector.bytes.length)
    (short : collector.length ≤ collector.bytes.length) :
    collector.collected = Ring.contents collector.bytes collector.start collector.length := by
  have front : ((collector.bytes.drop collector.start).take
      (min collector.length (collector.bytes.length - collector.start))).length =
        min collector.length (collector.bytes.length - collector.start) := by
    rw [List.length_take, List.length_drop]
    omega
  rw [← Ring.contents_linear inside short, collected]
  generalize first : min collector.length (collector.bytes.length - collector.start) = count at *
  simp only [arraycopy, List.take_zero, List.nil_append, Nat.zero_add, List.drop_zero]
  generalize (collector.bytes.drop collector.start).take count = piece at front ⊢
  split
  next more =>
    have cleared : (piece ++ (List.replicate collector.length 0).drop count).drop collector.length = [] := by
      apply List.drop_eq_nil_of_le
      rw [List.length_append, front, List.length_drop, List.length_replicate]
      omega
    rw [List.take_left' front, Nat.add_sub_cancel' more.le, cleared, List.append_nil]
  next all =>
    have same : count = collector.length := by omega
    have cleared : (List.replicate collector.length (0 : UInt8)).drop collector.length = [] := by
      apply List.drop_eq_nil_of_le
      rw [List.length_replicate]
    rw [same, Nat.sub_self, List.take_zero, cleared]

/-! ### The beginning -/

/-- A collector of the head has nothing at first. -/
theorem head_new : Head capacity [] (new capacity false) := by
  constructor <;> simp [new]

/-- Bytes behind those that an array has at its front. -/
theorem take_arraycopy {bytes : JavaBytes} {length count : Nat} (room : length + count ≤ bytes.length)
    (within : count ≤ source.length) :
    (arraycopy source 0 bytes length count).take (length + count) =
      bytes.take length ++ source.take count := by
  have front : (bytes.take length ++ source.take count).length = length + count := by
    rw [List.length_append, List.length_take, List.length_take]
    omega
  rw [arraycopy, List.drop_zero, List.take_left' front]

/-- Copying within the bounds leaves the length of the target as it is. -/
theorem length_arraycopy {bytes : JavaBytes} {length count : Nat} (room : length + count ≤ bytes.length)
    (within : count ≤ source.length) : (arraycopy source 0 bytes length count).length = bytes.length := by
  simp only [arraycopy, List.drop_zero, List.length_append, List.length_take, List.length_drop]
  omega

/-- A chunk that arrives is appended as far as there is room for it; what does not fit is dropped. -/
theorem Head.append (head : Head capacity received collector) {count : Nat}
    (within : count ≤ source.length) :
    Head capacity (received ++ source.take count) (collector.append source count) := by
  have counted : (source.take count).length = count := List.length_take_of_le within
  have filled := head.filled
  have size := head.size
  rw [OutputCollector.append]
  split
  next nothing =>
    rw [nothing, List.take_zero, List.append_nil]
    exact head
  next some =>
    rw [if_pos head.retains]
    dsimp only
    generalize copied : min count (collector.bytes.length - collector.length) = copy
    split
    next more =>
      have fits : collector.length + copy ≤ collector.bytes.length := by omega
      have short : copy ≤ source.length := by omega
      refine ⟨head.retains, by rw [length_arraycopy fits short, size], head.start, ?_, ?_, head.whole⟩
      · rw [List.length_append, counted]
        dsimp only
        omega
      · -- There is room, so that everything from before was kept.
        have before : received.take capacity = received := List.take_of_length_le (by omega)
        rw [take_arraycopy fits short, head.kept, before, List.take_append, before, List.take_take]
        congr 2
        omega
    next full =>
      refine ⟨head.retains, size, head.start, ?_, ?_, head.whole⟩
      · rw [List.length_append, counted]
        omega
      · rw [head.kept, List.take_append_of_le_length (by omega)]

/-- A collector of the head returns the first bytes of what was received, up to its capacity. -/
theorem Head.collected (head : Head capacity received collector) (positive : 0 < capacity) :
    collector.collected = received.take capacity := by
  have inside : collector.start < collector.bytes.length := by
    rw [head.start, head.size]
    exact positive
  have short : collector.length ≤ collector.bytes.length := by
    rw [head.filled, head.size]
    exact Nat.min_le_right _ _
  rw [collected_eq inside short, head.start, Ring.contents, List.rotate_zero, head.kept]

/-- Any sequence of reads is collected in the order in which it is received. -/
theorem Head.collect (head : Head capacity received collector) :
    Head capacity (received ++ reads.flatMap StreamRead.received) (collector.collect reads) := by
  induction reads generalizing received collector with
  | nil => rwa [List.flatMap_nil, List.append_nil]
  | cons read reads ih =>
      have rest := ih (head.append read.within)
      rwa [List.append_assoc] at rest

/-! ### The end -/

/-- A collector of the tail has nothing at first. -/
theorem tail_new (positive : 0 < capacity) : Tail capacity [] (new capacity true) := by
  constructor <;> simp [new, positive, Ring.contents, List.rtake]

/-- A byte that arrives replaces the oldest one when the ring is full, so that the ring always holds the
last bytes in their order from its start on. -/
theorem Tail.appendByte (tail : Tail capacity received collector) :
    Tail capacity (received ++ [byte]) (collector.appendByte byte) := by
  have positive : 0 < capacity := Nat.zero_lt_of_lt tail.inside
  have filled := tail.filled
  have size := tail.size
  rw [OutputCollector.appendByte]
  split
  next room =>
    have few : received.length < capacity := by omega
    refine ⟨tail.retains, by rw [List.length_set, size], tail.inside, ?_, ?_, ?_⟩
    · rw [List.length_append, List.length_singleton]
      dsimp only
      omega
    · rw [Ring.contents_push room, tail.kept, Ring.rtake_concat_of_room few]
    · rw [tail.cut, List.length_append, List.length_singleton]
      omega
  next full =>
    have many : capacity ≤ received.length := by omega
    have whole : collector.length = collector.bytes.length := by omega
    have inside : collector.start < collector.bytes.length := by
      rw [size]
      exact tail.inside
    refine ⟨tail.retains, by rw [List.length_set, size], ?_, ?_, ?_, ?_⟩
    · rw [size]
      exact Nat.mod_lt _ positive
    · rw [List.length_append, List.length_singleton]
      dsimp only
      omega
    · have kept := tail.kept
      rw [whole] at kept ⊢
      rw [Ring.contents_overwrite inside, kept, Ring.rtake_concat_of_full positive many]
    · rw [List.length_append, List.length_singleton]
      exact iff_of_true rfl (by omega)

/-- Bytes that arrive one after another leave the last ones of all in the ring. -/
theorem Tail.appendBytes (tail : Tail capacity received collector) :
    Tail capacity (received ++ source) (source.foldl OutputCollector.appendByte collector) := by
  induction source generalizing received collector with
  | nil => rwa [List.append_nil]
  | cons byte source ih =>
      have rest := ih (@Tail.appendByte _ _ _ byte tail)
      rwa [List.append_assoc] at rest

/-- A chunk that arrives, however long it is, leaves the last bytes of all in the ring. -/
theorem Tail.append (tail : Tail capacity received collector) {count : Nat} :
    Tail capacity (received ++ source.take count) (collector.append source count) := by
  rw [OutputCollector.append]
  split
  next nothing =>
    rw [nothing, List.take_zero, List.append_nil]
    exact tail
  next some =>
    rw [if_neg (by simp [tail.retains])]
    exact tail.appendBytes

/-- A collector of the tail returns the last bytes of what was received, up to its capacity. -/
theorem Tail.collected (tail : Tail capacity received collector) :
    collector.collected = received.rtake capacity := by
  have inside : collector.start < collector.bytes.length := by
    rw [tail.size]
    exact tail.inside
  have short : collector.length ≤ collector.bytes.length := by
    rw [tail.filled, tail.size]
    exact Nat.min_le_right _ _
  rw [collected_eq inside short, tail.kept]

/-- Any sequence of reads is collected in the order in which it is received, from its end. -/
theorem Tail.collect (tail : Tail capacity received collector) :
    Tail capacity (received ++ reads.flatMap StreamRead.received) (collector.collect reads) := by
  induction reads generalizing received collector with
  | nil => rwa [List.flatMap_nil, List.append_nil]
  | cons read reads ih =>
      have rest := ih (@Tail.append _ _ read.buffer _ tail read.count)
      rwa [List.append_assoc] at rest

end OutputCollector

/-- After any sequence of reads a collector of the beginning has the first bytes, and a collector of the
end the last ones; its text leaves out the first line when there were more, which may be cut. -/
theorem output_collected (decoded : JavaBytes → JavaString) {capacity : Nat} (positive : 0 < capacity)
    (retainTail : Bool) (reads : List StreamRead) {received : JavaBytes}
    (total : received = reads.flatMap StreamRead.received) {collector : OutputCollector}
    (ended : collector = (OutputCollector.new capacity retainTail).collect reads) :
    collector.start < capacity ∧ collector.length = min received.length capacity ∧
      (retainTail = false → collector.collected = received.take capacity) ∧
      (retainTail = true → collector.collected = received.rtake capacity ∧
        (received.length ≤ capacity → collector.output decoded = decoded received) ∧
        (capacity < received.length → ∃ rest, BehindNewline (received.rtake capacity) rest ∧
          collector.output decoded = OutputCollector.omissionMarker ++ decoded rest)) := by
  subst total ended
  cases retainTail with
  | false =>
      have head := @OutputCollector.Head.collect _ _ _ reads (@OutputCollector.head_new capacity)
      rw [List.nil_append] at head
      refine ⟨by rw [head.start]; exact positive, head.filled, fun _ => head.collected positive, ?_⟩
      rintro ⟨⟩
  | true =>
      have tail := @OutputCollector.Tail.collect _ _ _ reads (OutputCollector.tail_new positive)
      rw [List.nil_append] at tail
      refine ⟨tail.inside, tail.filled, by rintro ⟨⟩, fun _ => ⟨tail.collected, ?_, ?_⟩⟩
      · intro few
        have whole : (reads.flatMap StreamRead.received).rtake capacity =
            reads.flatMap StreamRead.received := by
          rw [List.rtake, Nat.sub_eq_zero_of_le few, List.drop_zero]
        rw [OutputCollector.output, if_neg (by rw [tail.cut]; omega), tail.collected, whole]
      · intro many
        rw [OutputCollector.output, if_pos (tail.cut.mpr many), tail.collected]
        exact ⟨_, OutputCollector.behindNewline_spec _, rfl⟩

/-- Two reads that a buffer of four bytes does not hold. -/
def straddlingReads : List StreamRead :=
  [⟨[0x61, 0x62, 0x63], 3, by decide⟩, ⟨[0x0a, 0x64, 0x65, 0x00], 3, by decide⟩]

theorem output_collected_straddling :
    ∃ rest, BehindNewline [0x63, 0x0a, 0x64, 0x65] rest ∧
      ((OutputCollector.new 4 true).collect straddlingReads).output (·.map UInt8.toUInt16) =
        OutputCollector.omissionMarker ++ rest.map UInt8.toUInt16 := by
  have law := output_collected (·.map UInt8.toUInt16) (show 0 < 4 by decide) true straddlingReads rfl rfl
  exact (law.2.2.2 rfl).2.2 (by decide)

end DawnShell.App
