/-
Module: DawnShell.App.OutputCollector
Layer: App
Purpose: What the app keeps of the output of a root command: the beginning, or the end in a circular
  buffer, of which the first line, which may be cut, is left out again.
Trusted boundary: faithful model of BfuSu.java:319-384.  An index stays below the size of the buffer, so
  that no `int` overflows; a read returns no more than it was given room for.  The UTF-8 decoder is a
  parameter.  The lock and the exception that ends the reading are left out.
Main exports: OutputCollector, OutputCollector.append, OutputCollector.collect, OutputCollector.output
-/
import DawnShell.Lib.JavaStrings

namespace DawnShell.App

open Java

/-- A `byte[]`. -/
abbrev JavaBytes := List UInt8

/-- `System.arraycopy` within the bounds of both arrays: the destination behind it. -/
def arraycopy (source : JavaBytes) (sourcePosition : Nat) (destination : JavaBytes)
    (position count : Nat) : JavaBytes :=
  destination.take position ++ (source.drop sourcePosition).take count ++
    destination.drop (position + count)

/-- `OutputCollector`. -/
structure OutputCollector where
  bytes : JavaBytes
  retainTail : Bool
  start : Nat := 0
  length : Nat := 0
  truncated : Bool := false
deriving DecidableEq, Repr

namespace OutputCollector

/-- `OutputCollector(input, maximumBytes, retainTail)`. -/
def new (maximumBytes : Nat) (retainTail : Bool) : OutputCollector where
  bytes := List.replicate maximumBytes 0
  retainTail := retainTail

/-- One iteration of the loop of `append`. -/
def appendByte (collector : OutputCollector) (byte : UInt8) : OutputCollector :=
  if collector.length < collector.bytes.length then
    { collector with
      bytes := collector.bytes.set
        ((collector.start + collector.length) % collector.bytes.length) byte
      length := collector.length + 1 }
  else
    { collector with
      bytes := collector.bytes.set collector.start byte
      start := (collector.start + 1) % collector.bytes.length
      truncated := true }

/-- `append`. -/
def append (collector : OutputCollector) (source : JavaBytes) (count : Nat) : OutputCollector :=
  if count = 0 then collector
  else if collector.retainTail = false then
    let copy := min count (collector.bytes.length - collector.length)
    if 0 < copy then
      { collector with
        bytes := arraycopy source 0 collector.bytes collector.length copy
        length := collector.length + copy }
    else collector
  else (source.take count).foldl appendByte collector

/-- The array that `output` copies the bytes to. -/
def collected (collector : OutputCollector) : JavaBytes :=
  let output := List.replicate collector.length 0
  let first := min collector.length (collector.bytes.length - collector.start)
  let output := arraycopy collector.bytes collector.start output 0 first
  if first < collector.length
  then arraycopy collector.bytes 0 output first (collector.length - first) else output

/-- What is left behind the loop that looks for a newline, and behind the newline. -/
def behindNewline (output : JavaBytes) : JavaBytes := (output.dropWhile (· != 0x0a)).drop 1

/-- The text in front of output of which the beginning is missing. -/
def omissionMarker : JavaString := literal "… earlier output omitted …\n".toList

/-- `output`. -/
def output (decoded : JavaBytes → JavaString) (collector : OutputCollector) : JavaString :=
  if collector.truncated then omissionMarker ++ decoded (behindNewline collector.collected)
  else decoded collector.collected

end OutputCollector

/-! ### Reading -/

/-- What a call of `read` gives: the buffer, and how much of it was filled. -/
structure StreamRead where
  buffer : JavaBytes
  count : Nat
  within : count ≤ buffer.length

/-- The bytes that were received. -/
def StreamRead.received (read : StreamRead) : JavaBytes := read.buffer.take read.count

/-- The loop of `run` over what the stream gives up to its end. -/
def OutputCollector.collect (collector : OutputCollector) (reads : List StreamRead) : OutputCollector :=
  reads.foldl (fun collector read => collector.append read.buffer read.count) collector

end DawnShell.App
