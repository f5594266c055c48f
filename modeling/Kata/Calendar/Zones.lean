import Kata.Unicode.Word
import Kata.Unicode.Digit

/-! Time zones in written dates: UTC offsets and zone abbreviations. -/

namespace Kata.Calendar

open Kata.Unicode

def zoneNames : List String := [
  "ACDT", "ACST", "ACT", "ADT", "AEDT", "AEST", "AFT", "AKDT", "AKST", "ALMT", "AMST", "AMT",
  "ANAST", "ANAT", "AQTT", "ART", "AST", "AWDT", "AWST", "AZOST", "AZOT", "AZST", "AZT", "BDT",
  "BIOT", "BIT", "BNT", "BOT", "BRST", "BRT", "BST", "BTT", "CAST", "CAT", "CCT", "CDT", "CEDT",
  "CEST", "CET", "CHADT", "CHAST", "CHOT", "CHST", "CHUT", "CIST", "CIT", "CKT", "CLST", "CLT",
  "COST", "COT", "CST", "CVT", "CWST", "CXT", "DAVT", "DDUT", "DFT", "EASST", "EAST", "EAT",
  "ECT", "EDT", "EEDT", "EEST", "EET", "EGST", "EGT", "EIT", "EST", "ET", "FET", "FJST", "FJT",
  "FKST", "FKT", "FNT", "GALT", "GAMT", "GET", "GFT", "GILT", "GIT", "GMT", "GST", "GYT", "HAA",
  "HAC", "HADT", "HAE", "HAP", "HAR", "HAST", "HAT", "HAY", "HKT", "HLV", "HMT", "HNA", "HNC",
  "HNE", "HNP", "HNR", "HNT", "HNY", "HOVT", "HST", "ICT", "IDT", "IOT", "IRDT", "IRKST", "IRKT",
  "IRST", "IST", "JST", "KGT", "KOST", "KRAST", "KRAT", "KST", "KUYT", "LHDT", "LHST", "LINT",
  "MAGST", "MAGT", "MART", "MAWT", "MDT", "MESZ", "MET", "MEST", "MEZ", "MHT", "MIST", "MIT",
  "MMT", "MSD", "MSK", "MST", "MUT", "MVT", "MYT", "NCT", "NDT", "NFT", "NOVST", "NOVT", "NPT",
  "NST", "NT", "NUT", "NZDT", "NZST", "OMSST", "OMST", "PDT", "PET", "PETST", "PETT", "PGT",
  "PHOT", "PHT", "PKT", "PMDT", "PMST", "PONT", "PST", "PT", "PWT", "PYST", "PYT", "RET", "ROTT",
  "SAKT", "SAMT", "SAST", "SBT", "SCT", "SGT", "SLST", "SLT", "SRT", "SST", "SYOT", "TAHT", "TFT",
  "THA", "TJT", "TKT", "TLT", "TMT", "TOT", "TVT", "UCT", "ULAT", "UTC", "UYST", "UYT", "UZT",
  "VET", "VLAST", "VLAT", "VOLT", "VOST", "VUT", "WAKT", "WAST", "WAT", "WEDT", "WEST", "WET",
  "WGST", "WGT", "WIB", "WIT", "WITA", "WST", "WT", "YAKST", "YAKT", "YAPT", "YEKST", "YEKT", "Z"]

structure Offset where
  east : Bool
  hours : Nat
  minutes : Nat
deriving DecidableEq, Repr

def offsets : List Offset := [
  ⟨false, 12, 0⟩, ⟨false, 11, 0⟩, ⟨false, 10, 0⟩, ⟨false, 9, 30⟩, ⟨false, 9, 0⟩, ⟨false, 8, 0⟩,
  ⟨false, 7, 0⟩, ⟨false, 6, 0⟩, ⟨false, 5, 0⟩, ⟨false, 4, 30⟩, ⟨false, 4, 0⟩, ⟨false, 3, 30⟩,
  ⟨false, 3, 0⟩, ⟨false, 2, 30⟩, ⟨false, 2, 0⟩, ⟨false, 1, 0⟩, ⟨true, 1, 0⟩, ⟨true, 2, 0⟩,
  ⟨true, 3, 0⟩, ⟨true, 3, 30⟩, ⟨true, 4, 0⟩, ⟨true, 4, 30⟩, ⟨true, 5, 0⟩, ⟨true, 5, 30⟩,
  ⟨true, 5, 45⟩, ⟨true, 6, 0⟩, ⟨true, 6, 30⟩, ⟨true, 7, 0⟩, ⟨true, 8, 0⟩, ⟨true, 8, 45⟩,
  ⟨true, 9, 0⟩, ⟨true, 9, 30⟩, ⟨true, 10, 0⟩, ⟨true, 10, 30⟩, ⟨true, 11, 0⟩, ⟨true, 12, 0⟩,
  ⟨true, 12, 45⟩, ⟨true, 13, 0⟩, ⟨true, 14, 0⟩]

def Offset.inUse (o : Offset) : Bool := (o.hours = 0 && o.minutes = 0) || offsets.contains o

def isLetter (c : Char) : Bool := isWordChar c && !isDecimal c && c != '_'

def startsFolded (cs : List Char) (word : String) : Bool :=
  let w := word.toList
  (cs.take w.length).map Char.toLower == w.map Char.toLower

def minutesAfter (cs : List Char) : Option Nat :=
  match cs with
  | ':' :: a :: b :: rest =>
    if Char.isDigit a && Char.isDigit b && !(rest.head?.any Char.isDigit) then
      some (digitValue [a, b])
    else none
  | _ => none

def offsetLength (cs : List Char) : Option Nat :=
  let prefixed := startsFolded cs "utc" || startsFolded cs "gmt"
  let skipped := if !prefixed then 0 else if (cs.drop 3).head? == some ' ' then 4 else 3
  match cs.drop skipped with
  | s :: rest =>
    if s != '+' && s != '-' then none else
    let ds := rest.takeWhile Char.isDigit
    let after := rest.drop ds.length
    let taken := skipped + 1 + ds.length
    let check (h m : Nat) (len : Nat) : Option Nat :=
      if Offset.inUse ⟨s == '+', h, m⟩ then some len else none
    match ds.length, minutesAfter after with
    | 2, some m => check (digitValue ds) m (taken + 3)
    | 1, some m => if prefixed then check (digitValue ds) m (taken + 3) else none
    | 4, _ => check (digitValue (ds.take 2)) (digitValue (ds.drop 2)) taken
    | 1, none | 2, none => if prefixed then check (digitValue ds) 0 taken else none
    | _, _ => none
  | [] => none

def endsFree (cs : List Char) (len : Nat) : Bool := !((cs.drop len).head?.any isLetter)

def cutZone (cs : List Char) (i len : Nat) : List Char :=
  cs.take (if i = 0 then 1 else i) ++ cs.drop (i + len)

def findOffset (before : Option Char) (i : Nat) : List Char → Option (Nat × Nat)
  | [] => none
  | c :: rest =>
    let here :=
      if before.any isLetter then none
      else (offsetLength (c :: rest)).filter fun len => endsFree (c :: rest) len
    match here with
    | some len => some (i, len)
    | none => findOffset (some c) (i + 1) rest

def findName (name : String) (before : Option Char) (i : Nat) : List Char → Option Nat
  | [] => none
  | c :: rest =>
    if !before.any isLetter && startsFolded (c :: rest) name
        && endsFree (c :: rest) name.length then some i
    else findName name (some c) (i + 1) rest

/-- The text with its first zone taken out, or `none` when it names no zone. -/
def dropZone? (s : String) : Option String :=
  let cs := s.toList
  match findOffset none 0 cs with
  | some (i, len) => some (String.ofList (cutZone cs i len))
  | none =>
    zoneNames.findSome? fun name =>
      (findName name none 0 cs).map fun i => String.ofList (cutZone cs i name.length)

end Kata.Calendar
