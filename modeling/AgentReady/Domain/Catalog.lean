import AgentReady.Domain.Canonical

/-!
Dates and the shoe catalog (`packages/catalog/src/catalog.ts`).

Instants are milliseconds since the epoch. Local time is at a fixed offset from UTC,
so `setDate` moves an instant by whole days. A product's brand, description and image
are left out: nothing modelled reads them.
-/

namespace AgentReady

/-! ### Dates -/

def msPerDay : Int := 24 * 60 * 60 * 1000

/-- Year, month and day of a day number counted from 1970-01-01. -/
def civil (days : Int) : Int × Int × Int :=
  let z := days + 719468
  let era := z / 146097
  let doe := z - era * 146097
  let yoe := (doe - doe / 1460 + doe / 36524 - doe / 146096) / 365
  let doy := doe - (365 * yoe + yoe / 4 - yoe / 100)
  let mp := (5 * doy + 2) / 153
  let month := if mp < 10 then mp + 3 else mp - 9
  let year := yoe + era * 400 + (if month ≤ 2 then 1 else 0)
  (year, month, doy - (153 * mp + 2) / 5 + 1)

/-- `n` in decimal with at least `width` digits. -/
def padded (width n : Nat) : String :=
  let digits := toString n
  String.ofList (List.replicate (width - digits.length) '0') ++ digits

/-- A year as `toISOString` writes it: four digits, else a sign and six. -/
def yearText (year : Int) : String :=
  if 0 ≤ year ∧ year ≤ 9999 then padded 4 year.toNat
  else (if year < 0 then "-" else "+") ++ padded 6 year.natAbs

/-- `Date.prototype.toISOString`. -/
def isoString (ms : Int) : String :=
  let (year, month, day) := civil (ms / msPerDay)
  let t := (ms % msPerDay).toNat
  yearText year ++ "-" ++ padded 2 month.toNat ++ "-" ++ padded 2 day.toNat ++ "T" ++
    padded 2 (t / 3600000) ++ ":" ++ padded 2 (t / 60000 % 60) ++ ":" ++
    padded 2 (t / 1000 % 60) ++ "." ++ padded 3 (t % 1000) ++ "Z"

example : isoString 951827696789 = "2000-02-29T12:34:56.789Z" := by decide +kernel

/-! ### Products -/

structure CatalogVariant where
  sku : String
  size : String
  inStock : Int
deriving DecidableEq

structure CatalogProduct where
  productId : String
  name : String
  category : String
  useCase : String
  fit : String
  cushioning : String
  colour : List String
  priceMinor : Int
  currency : String
  typicalDistanceKm : Nat
  returnable : Bool
  deliveryLeadDays : Nat
  rating : ℚ
  variants : List CatalogVariant
deriving DecidableEq

structure ReturnPolicy where
  policyId : String
  returnable : Bool
  windowDays : Nat
  condition : String

structure Catalog where
  merchantId : String
  returnPolicy : ReturnPolicy
  products : List CatalogProduct

/-- A product of the shoe catalog; each comes in `UK 9` and `UK 10`, is a running shoe
priced in rupees, and can be returned. -/
def shoe (productId name useCase fit cushioning : String) (colour : List String)
    (priceMinor : Int) (typicalDistanceKm deliveryLeadDays : Nat) (rating : ℚ) (sku : String)
    (nine ten : Int) : CatalogProduct where
  productId := productId
  name := name
  category := "running_shoes"
  useCase := useCase
  fit := fit
  cushioning := cushioning
  colour := colour
  priceMinor := priceMinor
  currency := "INR"
  typicalDistanceKm := typicalDistanceKm
  returnable := true
  deliveryLeadDays := deliveryLeadDays
  rating := rating
  variants := [⟨sku ++ "-9", "UK 9", nine⟩, ⟨sku ++ "-10", "UK 10", ten⟩]

/-- `SHOE_CATALOG`. -/
def shoeCatalog : Catalog where
  merchantId := "merchant_runvista"
  returnPolicy := ⟨"rp_runvista_std", true, 14, "Unworn, in original box"⟩
  products := [
    shoe "p_streak_4" "RunVista Streak 4" "road" "standard" "balanced" ["black"] 429900 10 3
      (46 / 10) "STRK4-BLK" 6 2,
    shoe "p_vista_max" "RunVista Max Cushion" "road" "wide" "max" ["black", "grey"] 489900 12 3
      (47 / 10) "VMAX-BLK" 4 0,
    shoe "p_stride_lite" "RunVista Stride Lite" "road" "narrow" "minimal" ["black", "navy"]
      349900 8 5 (43 / 10) "STRL-BLK" 9 5,
    shoe "p_trail_rock" "RunVista Trail Rock" "trail" "standard" "balanced" ["black"] 459900 10 4
      (45 / 10) "TRLK-BLK" 3 7,
    shoe "p_gym_pace" "RunVista Gym Pace" "gym" "standard" "balanced" ["black"] 379900 5 3
      (44 / 10) "GYMP-BLK" 5 8,
    shoe "p_casual_day" "RunVista Everyday" "casual" "wide" "balanced" ["black", "white"] 299900
      3 2 (42 / 10) "CASE-BLK" 10 4]

structure ShippingEstimate where
  leadDays : Nat
  deliverBy : String
  feeMinor : Int

def estimateShipping (leadDays : Nat) (now : Int) : ShippingEstimate :=
  ⟨leadDays, isoString (now + leadDays * msPerDay), 4900⟩

/-- `JSON.stringify` of the return policy. -/
def ReturnPolicy.text (p : ReturnPolicy) : String :=
  "\x7b\"policyId\":" ++ Json.quote p.policyId ++ ",\"returnable\":" ++
    (if p.returnable then "true" else "false") ++ ",\"windowDays\":" ++ toString p.windowDays ++
    ",\"condition\":" ++ Json.quote p.condition ++ "\x7d"

/-! ### Amounts as text -/

/-- A whole amount with the `en-IN` grouping: the last three digits, then pairs. -/
def groupIndian (digits : List Char) : List Char :=
  let rec pairs : List Char → List Char
    | a :: b :: c :: rest => a :: b :: ',' :: pairs (c :: rest)
    | rest => rest
  let rev := digits.reverse
  let (low, high) := rev.splitAt 3
  (if high.isEmpty then low else low ++ ',' :: pairs high).reverse

/-- A number of thousandths with the `en-IN` grouping, without trailing zeros. -/
def localeText (negative : Bool) (thousandths : Nat) : String :=
  let whole := groupIndian (toString (thousandths / 1000)).toList
  let frac := ((padded 3 (thousandths % 1000)).toList.reverse.dropWhile (· = '0')).reverse
  let body := if frac.isEmpty then whole else whole ++ '.' :: frac
  String.ofList (if negative then '-' :: body else body)

/-- `(minor / 100).toLocaleString("en-IN")`: at most three decimals, halves away from
zero. -/
def rupees : Json.Number → String
  | .finite q => localeText (q < 0) ⌊|q| * 10 + 1 / 2⌋.toNat
  | .infinite positive => if positive then "∞" else "-∞"

example : rupees (.ofInt 1000000050) = "1,00,00,000.5" := by decide +kernel

end AgentReady
