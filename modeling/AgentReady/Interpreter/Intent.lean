import AgentReady.Interpreter.Schema
import AgentReady.Domain.Catalog
import AgentReady.Lib.Regex

/-!
Deterministic parsing of a message (`apps/web/lib/intent.ts`).

The text is lower-cased and its commas and full stops become spaces before most of the
patterns are tried.
-/

namespace AgentReady

open Regex

/-- A whole number, infinite from where a double overflows. -/
def numberOf (n : Nat) : Json.Number :=
  if n < 2 ^ 1024 - 2 ^ 970 then .ofInt n else .infinite true

def natOfDigits (digits : List Char) : Nat :=
  digits.foldl (fun n c => 10 * n + (c.toNat - 48)) 0

/-- `Math.round(Number(digits) * 100)` of the digits in a text. -/
def amountOf (raw : List Char) : Json.Number :=
  numberOf (100 * natOfDigits (raw.filter Char.isDigit))

/-- True when `token` appears negated. -/
def isNegated (text : List Char) (token : String) : Bool :=
  let wanted := alts [litI "want", litI "like", litI "need"]
  (seqs [boundary,
    alts [litI "not", litI "no", litI "never",
      seqs [litI "don", opt (lit "'"), litI "t", plus space, wanted],
      seqs [litI "do", plus space, litI "not", plus space, wanted]],
    plus space, opt (alts [litI "a", litI "the", litI "any"]), star space,
    litI token, boundary]).test text

/-- The text that most patterns see. -/
def normalizeText (message : List Char) : List Char :=
  (toLowerCase message).map fun c => if c = ',' ∨ c = '.' then ' ' else c

/-- `(\d{1,3})\s*k\s*m?\b`. -/
def distancePattern : Regex :=
  seqs [group 1 (between digit 1 2), star space, lit "k", star space, opt (lit "m"), boundary]

/-- `(?:₹|rs\.?)\s*([\d][\d\s,]+)|([\d]{1,3}(?:[\s,]\d{3})+)|([\d]{4,})`. -/
def amountPattern : Regex :=
  let sep := one fun c => isSpace c || c = ','
  let digitOrSep := one fun c => c.isDigit || isSpace c || c = ','
  alts [
    seqs [alts [lit "₹", seqs [lit "rs", opt (lit ".")]], star space,
      group 1 (seq digit (plus digitOrSep))],
    group 2 (seq (between digit 1 2) (plus (seq sep (between digit 3 0)))),
    group 3 (seq (between digit 4 0) (star digit))]

/-- `(?:\bto\b|→|->|=>)`. -/
def correctionPattern : Regex :=
  alts [seqs [boundary, lit "to", boundary], lit "→", lit "->", lit "=>"]

/-- `(?:under|below|...)\s*(?:₹|rs\.?|inr|rupees?)?\s*([\d][\d\s,]*)`. -/
def ceilingPattern : Regex :=
  seqs [
    alts [lit "under", lit "below", lit "less than", lit "max", lit "at most", lit "upto",
      lit "up to", lit "for"],
    star space,
    opt (alts [lit "₹", seqs [lit "rs", opt (lit ".")], lit "inr",
      seqs [lit "rupee", opt (lit "s")]]),
    star space,
    group 1 (seq digit (star (one fun c => c.isDigit || isSpace c || c = ',')))]

/-- The budget a text names: with a correction keyword the last amount, otherwise the
amount after a ceiling word. -/
def parseBudget (text : List Char) : Option Json.Number :=
  let amounts := (amountPattern.matchAll text).map fun m =>
    amountOf (((m.group? 1).or (m.group? 2)).or (m.group? 3) |>.getD [])
  let corrected := if correctionPattern.test text then amounts.getLast? else none
  corrected.or (((ceilingPattern.exec none text).bind (·.group? 1)).map amountOf)

def parseSize (text : List Char) : Option String :=
  let named := supportedSizes.find? fun size =>
    let digits := size.toList.drop 3
    includes text (toLowerCase size.toList) ||
      (seqs [boundary, litI "uk", star space, lit (String.ofList digits), boundary]).test text
  let numbered := do
    let m ← (seqs [boundary, lit "size", star space, group 1 (between digit 1 1),
      boundary]).exec none text
    let n := natOfDigits ((m.group? 1).getD [])
    if 6 ≤ n ∧ n ≤ 11 then some ("UK " ++ toString n) else none
  named.or numbered

def parseUseCase (text : List Char) : Option String :=
  supportedUseCases.find? fun use =>
    !isNegated text use && !(use = "road" && isNegated text "running") &&
      (includes text use.toList || (use = "road" && includes text "running".toList))

def parseColour (text : List Char) : Option String :=
  supportedColours.find? fun colour =>
    !isNegated text colour && (seqs [boundary, lit colour, boundary]).test text

def days : List String :=
  ["sunday", "monday", "tuesday", "wednesday", "thursday", "friday", "saturday"]

/-- The weekday of an instant in local time; Sunday is 0. -/
def localWeekday (P : Platform) (now : Int) : Int := ((now + P.localOffset) / msPerDay + 4) % 7

/-- The end of `hour` on the next `targetDay` after today, in local time. -/
def nextWeekday (P : Platform) (now : Int) (targetDay hour : Int) : String :=
  let delta := (targetDay - localWeekday P now + 7) % 7
  let ahead := if delta = 0 then 7 else delta
  let midnight := ((now + P.localOffset) / msPerDay + ahead) * msPerDay
  isoString (midnight + hour * 3600000 + 3599999 - P.localOffset)

def parseDeadline (P : Platform) (now : Int) (text : List Char) : Option String :=
  let named := (days.zipIdx.find? fun d => includes text d.1.toList).map fun d =>
    nextWeekday P now d.2 1
  named.or (if (seqs [boundary, lit "tomorrow", boundary]).test text
    then some (nextWeekday P now (localWeekday P now) 1) else none)

/-- The first of some texts, each with the value it stands for, that occurs. -/
def firstOf (text : List Char) (values : List (String × String)) : Option String :=
  (values.find? fun v => includes text v.1.toList).map Prod.snd

def parseIntentMessage (P : Platform) (now : Int) (message : String) : ParsedIntent :=
  let text := normalizeText message.toList
  let distance := (distancePattern.exec none text).bind (·.group? 1)
  let withoutDistance := distancePattern.replaceAll " DIST ".toList text
  { size := parseSize text
    colour := parseColour text
    useCase := parseUseCase text
    maxAmountMinor := parseBudget withoutDistance
    mustBeReturnable :=
      if (seqs [boundary, lit "return", star word, boundary]).test text then some true else none
    deliverBy := parseDeadline P now text
    distanceKm := distance.map fun d => .ofInt (natOfDigits d)
    fit := firstOf text [("wide", "wide"), ("narrow", "narrow"), ("standard", "standard")]
    cushioning := firstOf text [("max cushioning", "max"), ("cushioning preferred", "max"),
      ("minimal", "minimal"), ("light cushioning", "minimal"), ("balanced", "balanced")] }

end AgentReady
