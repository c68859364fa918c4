import Koupang.Model.Order
import Koupang.Model.Unicode

/-!
# Value objects of the catalog service

Slugs, URLs, names, category labels and SKU codes: texts that are validated when
a request comes in. A value object is a structure that carries the proof of its
validation; a name, which is only trimmed and bounded, stays a text.
-/

namespace Koupang.Store

/-! ## Slugs and URLs -/

/-- `[a-z0-9]` -/
def isSlugChar (c : Char) : Bool := ('a' ≤ c && c ≤ 'z') || ('0' ≤ c && c ≤ '9')

/-- `^[a-z0-9]+(-[a-z0-9]+)*$` -/
def slugRe (s : String) : Bool :=
  (s.toList.splitOn '-').all fun part => !part.isEmpty && part.all isSlugChar

structure Slug where
  value : String
  valid : slugRe value = true
deriving DecidableEq

def Slug.new (input : String) : Except AppError Slug :=
  let trimmed := Text.trim input
  if trimmed.isEmpty then .error (.badRequest "Slug must not be empty")
  else if Text.len trimmed > 500 then .error (.badRequest "Slug must not exceed 500 characters")
  else if hvalid : slugRe trimmed = true then .ok ⟨trimmed, hvalid⟩
  else .error (.badRequest
    "Slug must be lowercase alphanumeric with hyphens (e.g. my-product-name)")

/-- Lowercase a name, put `sep` in the place of whatever is not alphanumeric, and leave out
    the empty parts between separators. -/
def joinWords (sep : Char) (name : String) : String :=
  let chars := (Text.toLowercase (Text.trim name)).toList.map fun c =>
    if Text.isAlphanumeric c then c else sep
  String.ofList ([sep].intercalate ((chars.splitOn sep).filter (!·.isEmpty)))

/-- Generate a slug from a human-readable name by lowercasing and replacing
    non-alphanumeric with hyphens. -/
def Slug.fromName (name : String) : Except AppError Slug := Slug.new (joinWords '-' name)

/-- `^https?://.+`, where `.` is any character but a newline. -/
def urlRe (s : String) : Bool :=
  let rest := if "https://".toList.isPrefixOf s.toList then some (s.toList.drop 8)
    else if "http://".toList.isPrefixOf s.toList then some (s.toList.drop 7)
    else none
  match rest with
  | some (c :: _) => c ≠ '\n'
  | _ => false

structure HttpUrl where
  value : String
  valid : urlRe value = true
deriving DecidableEq

def HttpUrl.new (input : String) : Except AppError HttpUrl :=
  let trimmed := Text.trim input
  if hvalid : urlRe trimmed = true then
    if Text.len trimmed > 2048 then .error (.badRequest "URL must not exceed 2048 characters")
    else .ok ⟨trimmed, hvalid⟩
  else .error (.badRequest "URL must start with http:// or https://")

/-! ## Names -/

def ProductName.new : String → Except AppError String := validatedName "Product name" 500

def CategoryName.new : String → Except AppError String := validatedName "Category name" 255

def BrandName.new : String → Except AppError String := validatedName "Brand name" 255

/-! ## Category labels -/

/-- `[a-z0-9_]` -/
def isLabelChar (c : Char) : Bool := isSlugChar c || c = '_'

/-- `char::is_ascii_lowercase` -/
def isAsciiLowercase (c : Char) : Bool := 'a' ≤ c && c ≤ 'z'

/-- `^[a-z][a-z0-9_]*$` -/
def ltreeLabelRe (s : String) : Bool :=
  match s.toList with
  | [] => false
  | c :: rest => isAsciiLowercase c && rest.all isLabelChar

structure LtreeLabel where
  value : String
  valid : ltreeLabelRe value = true
deriving DecidableEq

def LtreeLabel.new (input : String) : Except AppError LtreeLabel :=
  let trimmed := Text.trim input
  if trimmed.isEmpty then .error (.badRequest "Ltree label must not be empty")
  else if Text.len trimmed > 255 then
    .error (.badRequest "Ltree label must not exceed 255 characters")
  else if hvalid : ltreeLabelRe trimmed = true then .ok ⟨trimmed, hvalid⟩
  else .error (.badRequest ("Ltree label must be lowercase alphanumeric with underscores, " ++
    "starting with a letter (e.g. electronics, smart_phones)"))

/-- Generate a label from a human-readable name: "Smart Phones" -> "smart_phones". -/
def LtreeLabel.fromName (name : String) : Except AppError LtreeLabel :=
  let label := joinWords '_' name
  if label.isEmpty then .error (.badRequest "Cannot generate ltree label from empty name")
  else
    -- Ensure starts with a letter (strip leading digits/underscores)
    LtreeLabel.new (String.ofList (label.toList.dropWhile (!isAsciiLowercase ·)))

/-! ## SKUs -/

/-- `[A-Za-z0-9]` -/
def isSkuChar (c : Char) : Bool := isSlugChar c || ('A' ≤ c && c ≤ 'Z')

/-- `^[A-Za-z0-9][A-Za-z0-9_-]{0,98}[A-Za-z0-9]$` -/
def skuCodeRe (s : String) : Bool :=
  match s.toList with
  | [] => false
  | first :: rest =>
    match rest.getLast? with
    | none => false
    | some last =>
      isSkuChar first && isSkuChar last && rest.length ≤ 99 &&
        rest.dropLast.all fun c => isSkuChar c || c = '_' || c = '-'

structure SkuCode where
  value : String
  valid : skuCodeRe value = true
deriving DecidableEq

def SkuCode.new (input : String) : Except AppError SkuCode :=
  let trimmed := Text.trim input
  if Text.len trimmed < 2 then .error (.badRequest "SKU code must be at least 2 characters")
  else if Text.len trimmed > 100 then
    .error (.badRequest "SKU code must not exceed 100 characters")
  else if hvalid : skuCodeRe trimmed = true then .ok ⟨trimmed, hvalid⟩
  else .error (.badRequest
    "SKU code must be alphanumeric (with hyphens/underscores allowed in the middle)")

structure StockQuantity where
  value : Int
  valid : 0 ≤ value
deriving DecidableEq

def StockQuantity.new (value : Int) : Except AppError StockQuantity :=
  if h : value < 0 then .error (.badRequest "Stock quantity must not be negative")
  else .ok ⟨value, Int.not_lt.mp h⟩

inductive ProductStatus where
  | draft
  | active
  | inactive
  | archived
deriving DecidableEq, Repr

inductive SkuStatus where
  | active
  | inactive
  | outOfStock
deriving DecidableEq, Repr

/-- A `serde_json::Value`, by its text. -/
structure JsonValue where
  text : String
deriving DecidableEq, Repr

end Koupang.Store
