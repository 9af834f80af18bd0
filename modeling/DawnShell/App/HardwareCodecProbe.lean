/-
Module: DawnShell.App.HardwareCodecProbe
Layer: App
Purpose: How the capability probe of the app judges the name of a codec: software, hardware, secure.
Trusted boundary: faithful model of HardwareCodecProbe.java:319-342.  `toLowerCase` is the one of the US
  locale; two characters outside ASCII become letters of ASCII there, the others become characters outside
  ASCII and are left as they are, since no text of the probe has one.
Main exports: isConservativeSoftwareCodecName, isConservativeHardwareCodecName, isSecureCodec
-/
import Mathlib.Data.List.Infix

namespace DawnShell.App

/-- What a character becomes in lower case: a letter of ASCII, the Kelvin sign and the capital i with a dot
become letters of ASCII, the last of them followed by a combining dot. -/
def lowerCharacter (character : Char) : List Char :=
  if 'A' ≤ character ∧ character ≤ 'Z' then [Char.ofNat (character.toNat + 32)]
  else if character = Char.ofNat 0x212a then ['k']
  else if character = Char.ofNat 0x130 then ['i', Char.ofNat 0x307]
  else [character]

/-- `String.toLowerCase(Locale.US)`. -/
def lowerCase (name : String) : List Char := name.toList.flatMap lowerCharacter

/-- `startsWithAny`. -/
def startsWithAny (value : List Char) (stems : List String) : Bool :=
  stems.any fun stem => stem.toList.isPrefixOf value

def softwareStems : List String :=
  ["omx.google.", "c2.android.", "omx.ffmpeg.", "omx.pv.", "omx.k3.ffmpeg."]

def hardwareStems : List String :=
  ["omx.exynos.", "omx.sec.", "c2.exynos.", "omx.qcom.", "c2.qti.", "omx.mtk.", "c2.mtk.",
    "omx.intel.", "omx.nvidia.", "omx.rk.", "omx.amlogic.", "omx.allwinner."]

/-- `isConservativeSoftwareCodecName`. -/
def isConservativeSoftwareCodecName (codecName : String) : Bool :=
  startsWithAny (lowerCase codecName) softwareStems

/-- `isConservativeHardwareCodecName`. -/
def isConservativeHardwareCodecName (codecName : String) : Bool :=
  startsWithAny (lowerCase codecName) hardwareStems

/-- `String.contains`. -/
def contains (value : List Char) (part : String) : Bool :=
  value.tails.any fun rest => part.toList.isPrefixOf rest

/-- `isSecureCodec`. -/
def isSecureCodec (name : String) : Bool :=
  let lower := lowerCase name
  ".secure".toList.isSuffixOf lower || contains lower "secure.decoder"
    || contains lower "secure.encoder"

end DawnShell.App
