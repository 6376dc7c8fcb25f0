/-
**The groups of the purchases list.**

The list shows a row for each product from a source and in a currency.  Its key says where the
product lives, by an identifier or, for a product that was deleted, by its name in base64url; the
page of a row reads the key back into a database filter.  This module embeds `groupKey`,
`whereForKey`, `list` and `group` of `purchases.service.ts`.

Main results:

* `Purchasing.purchaseGroups` — **the page of a group shows the rows of the list**.
-/

import Mathlib.Data.List.GetD
import Zomaal.JsText
import Zomaal.Purchases

set_option autoImplicit false

namespace Zomaal.Purchasing

open JsText (truthy)

/-! ### Base64url -/

def base64Chars : List Char :=
  "ABCDEFGHIJKLMNOPQRSTUVWXYZabcdefghijklmnopqrstuvwxyz0123456789-_".toList

def sextetChar (n : ℕ) : Char := base64Chars.getD n '_'

def sextetOf (c : Char) : ℕ := base64Chars.idxOf c

def toBase64url : List ℕ → List Char
  | a :: b :: c :: rest =>
    sextetChar (a / 4) :: sextetChar (a % 4 * 16 + b / 16) :: sextetChar (b % 16 * 4 + c / 64) ::
      sextetChar (c % 64) :: toBase64url rest
  | [a, b] => [sextetChar (a / 4), sextetChar (a % 4 * 16 + b / 16), sextetChar (b % 16 * 4)]
  | [a] => [sextetChar (a / 4), sextetChar (a % 4 * 16)]
  | [] => []

/-- `Buffer.from(value, 'base64url')`, of a text that was written so. -/
def ofBase64url : List Char → List ℕ
  | w :: x :: y :: z :: rest =>
    (sextetOf w * 4 + sextetOf x / 16) :: (sextetOf x % 16 * 16 + sextetOf y / 4) ::
      (sextetOf y % 4 * 64 + sextetOf z) :: ofBase64url rest
  | [w, x, y] => [sextetOf w * 4 + sextetOf x / 16, sextetOf x % 16 * 16 + sextetOf y / 4]
  | [w, x] => [sextetOf w * 4 + sextetOf x / 16]
  | _ => []

theorem sextetOf_sextetChar : ∀ n < 64, sextetOf (sextetChar n) = n := by
  decide +kernel

theorem tilde_notMem_toBase64url (bytes : List ℕ) : '~' ∉ toBase64url bytes := by
  have hchar : ∀ n, '~' ≠ sextetChar n := fun n => by
    by_cases hn : n < base64Chars.length
    · rw [sextetChar, List.getD_eq_getElem _ _ hn]
      exact fun heq => absurd (heq ▸ List.getElem_mem hn) (by decide)
    · rw [sextetChar, List.getD_eq_default _ _ (not_lt.1 hn)]
      decide
  induction bytes using toBase64url.induct with
  | case1 a b c rest ih => simp [toBase64url, hchar, ih]
  | case2 a b => simp [toBase64url, hchar]
  | case3 a => simp [toBase64url, hchar]
  | case4 => simp [toBase64url]

theorem ofBase64url_toBase64url {bytes : List ℕ} (h : ∀ byte ∈ bytes, byte < 256) :
    ofBase64url (toBase64url bytes) = bytes := by
  induction bytes using toBase64url.induct with
  | case1 a b c rest ih =>
    simp only [List.forall_mem_cons] at h
    obtain ⟨ha, hb, hc, hrest⟩ := h
    rw [toBase64url, ofBase64url, ih hrest, sextetOf_sextetChar _ (by omega),
      sextetOf_sextetChar _ (by omega), sextetOf_sextetChar _ (by omega),
      sextetOf_sextetChar _ (by omega)]
    have hfirst : a / 4 * 4 + (a % 4 * 16 + b / 16) / 16 = a := by omega
    have hsecond : (a % 4 * 16 + b / 16) % 16 * 16 + (b % 16 * 4 + c / 64) / 4 = b := by omega
    have hthird : (b % 16 * 4 + c / 64) % 4 * 64 + c % 64 = c := by omega
    rw [hfirst, hsecond, hthird]
  | case2 a b =>
    simp only [List.forall_mem_cons] at h
    obtain ⟨ha, hb, -⟩ := h
    rw [toBase64url, ofBase64url, sextetOf_sextetChar _ (by omega),
      sextetOf_sextetChar _ (by omega), sextetOf_sextetChar _ (by omega)]
    have hfirst : a / 4 * 4 + (a % 4 * 16 + b / 16) / 16 = a := by omega
    have hsecond : (a % 4 * 16 + b / 16) % 16 * 16 + b % 16 * 4 / 4 = b := by omega
    rw [hfirst, hsecond]
  | case3 a =>
    have ha := h a List.mem_cons_self
    rw [toBase64url, ofBase64url, sextetOf_sextetChar _ (by omega),
      sextetOf_sextetChar _ (by omega)]
    have hfirst : a / 4 * 4 + a % 4 * 16 / 16 = a := by omega
    rw [hfirst]
  | case4 => rfl

def utf8Bytes (text : String) : List ℕ := text.toUTF8.data.toList.map UInt8.toNat

/-- `Buffer.toString('utf8')`; what stands in for ill-formed bytes makes no difference here. -/
def utf8Text (replaced : ByteArray → String) (bytes : List ℕ) : String :=
  let buffer : ByteArray := ⟨(bytes.map UInt8.ofNat).toArray⟩
  (String.fromUTF8? buffer).getD (replaced buffer)

theorem utf8Text_utf8Bytes (replaced : ByteArray → String) (text : String) :
    utf8Text replaced (utf8Bytes text) = text := by
  have hbuffer : (⟨((utf8Bytes text).map UInt8.ofNat).toArray⟩ : ByteArray) = text.toUTF8 := by
    rw [utf8Bytes, List.map_map]
    have hid : UInt8.ofNat ∘ UInt8.toNat = id := funext fun byte => by simp
    rw [hid, List.map_id, Array.toArray_toList]
  have hread : String.fromUTF8? text.toUTF8 = some text := dif_pos text.isValidUTF8
  rw [utf8Text, hbuffer, hread, Option.getD_some]

def encodeName (name : String) : String := String.ofList (toBase64url (utf8Bytes name))

def decodeName (replaced : ByteArray → String) (value : List Char) : String :=
  utf8Text replaced (ofBase64url value)

theorem decodeName_encodeName (replaced : ByteArray → String) (name : String) :
    decodeName replaced (encodeName name).toList = name := by
  have hbytes : ∀ byte ∈ utf8Bytes name, byte < 256 := fun byte hbyte => by
    obtain ⟨octet, -, rfl⟩ := List.mem_map.1 hbyte
    exact octet.toNat_lt
  rw [encodeName, String.toList_ofList, decodeName, ofBase64url_toBase64url hbytes,
    utf8Text_utf8Bytes]

/-! ### Keys -/

def legacyGroupKey (p : MerchantPurchase) : String :=
  match p.source, truthy p.warehouseProductId, truthy p.packagingMaterialId,
    truthy p.shopProductId with
  | .manual, some id, _, _ => "m_" ++ id
  | .manual, none, some id, _ => "p_" ++ id
  | .shop, _, _, some id => "s_" ++ id
  | .manual, none, none, _ => "mn_" ++ encodeName p.productName
  | .shop, _, _, none => "sn_" ++ encodeName p.productName

def groupKey (p : MerchantPurchase) : String := legacyGroupKey p ++ "~" ++ p.currency

structure PurchaseWhere where
  storeId : String
  source : MerchantPurchaseSource
  warehouseProductId : Option (Option String) := none
  packagingMaterialId : Option (Option String) := none
  shopProductId : Option (Option String) := none
  productName : Option String := none
  currency : Option String := none

def PurchaseWhere.selects (filter : PurchaseWhere) (p : MerchantPurchase) : Bool :=
  p.storeId = filter.storeId && p.source = filter.source &&
    (filter.warehouseProductId.all fun id => p.warehouseProductId = id) &&
    (filter.packagingMaterialId.all fun id => p.packagingMaterialId = id) &&
    (filter.shopProductId.all fun id => p.shopProductId = id) &&
    (filter.productName.all fun name => p.productName = name) &&
    filter.currency.all fun currency => p.currency = currency

theorem PurchaseWhere.selects_iff {filter : PurchaseWhere} {p : MerchantPurchase} :
    filter.selects p = true ↔ p.storeId = filter.storeId ∧ p.source = filter.source ∧
      (∀ id, filter.warehouseProductId = some id → p.warehouseProductId = id) ∧
      (∀ id, filter.packagingMaterialId = some id → p.packagingMaterialId = id) ∧
      (∀ id, filter.shopProductId = some id → p.shopProductId = id) ∧
      (∀ name, filter.productName = some name → p.productName = name) ∧
      ∀ currency, filter.currency = some currency → p.currency = currency := by
  simp only [selects, Bool.and_eq_true, decide_eq_true_eq, Option.all_eq_true, and_assoc]

/-- `/^[A-Z]{3}$/` -/
def isCurrency (text : List Char) : Bool := text.length = 3 && text.all Char.isUpper

/-- A text around the last `~` in it. -/
def splitLast (key : List Char) : Option (List Char × List Char) :=
  if '~' ∈ key then
    some ((key.reverse.dropWhile (· ≠ '~')).tail.reverse, (key.reverse.takeWhile (· ≠ '~')).reverse)
  else none

theorem splitLast_none {key : List Char} (h : '~' ∉ key) : splitLast key = none := if_neg h

theorem splitLast_append {front back : List Char} (h : '~' ∉ back) :
    splitLast (front ++ '~' :: back) = some (front, back) := by
  have hreverse : (front ++ '~' :: back).reverse = back.reverse ++ '~' :: front.reverse := by
    simp
  have hall : ∀ c ∈ back.reverse, decide (c ≠ '~') = true := fun c hc =>
    decide_eq_true fun heq => h (heq ▸ List.mem_reverse.1 hc)
  rw [splitLast, if_pos (by simp), hreverse, List.dropWhile_append_of_pos hall,
    List.takeWhile_append_of_pos hall]
  simp

theorem splitLast_length {key front back : List Char} (h : splitLast key = some (front, back)) :
    front.length < key.length := by
  rw [splitLast] at h
  split at h
  · rename_i hmem
    obtain ⟨rfl, -⟩ := Prod.mk.inj (Option.some.inj h)
    have hle := (List.dropWhile_suffix (· ≠ '~') (l := key.reverse)).length_le
    have hpos := List.length_pos_of_mem hmem
    rw [List.length_reverse, List.length_tail]
    rw [List.length_reverse] at hle
    omega
  · cases h

/-- The parts of a key around its first underscore decide on the filter. -/
def plainWhere (replaced : ByteArray → String) (storeId : String) (key : List Char) :
    Except String PurchaseWhere :=
  let value := (key.dropWhile (· ≠ '_')).tail
  if value = [] then .error "Purchase group not found"
  else
    match String.ofList (key.takeWhile (· ≠ '_')) with
    | "m" => .ok { storeId, source := .manual, warehouseProductId := some (String.ofList value) }
    | "p" => .ok { storeId, source := .manual, packagingMaterialId := some (String.ofList value) }
    | "s" => .ok { storeId, source := .shop, shopProductId := some (String.ofList value) }
    | "mn" =>
      .ok
        { storeId, source := .manual, warehouseProductId := some none
          packagingMaterialId := some none, productName := some (decodeName replaced value) }
    | "sn" =>
      .ok
        { storeId, source := .shop, shopProductId := some none
          productName := some (decodeName replaced value) }
    | _ => .error "Purchase group not found"

def whereForKey (replaced : ByteArray → String) (storeId : String) (key : List Char) :
    Except String PurchaseWhere :=
  match _h : splitLast key with
  | some (front, currency) =>
    if !isCurrency currency then .error "Purchase group not found"
    else
      (whereForKey replaced storeId front).map fun filter =>
        { filter with currency := some (String.ofList currency) }
  | none => plainWhere replaced storeId key
termination_by key.length
decreasing_by exact splitLast_length ‹splitLast key = _›

/-! ### Groups -/

inductive PurchaseGroup
  | product (id : String)
  | packaging (id : String)
  | shopProduct (id : String)
  | manualName (name : String)
  | shopName (name : String)

namespace PurchaseGroup

def kind : PurchaseGroup → List Char
  | product _ => ['m']
  | packaging _ => ['p']
  | shopProduct _ => ['s']
  | manualName _ => ['m', 'n']
  | shopName _ => ['s', 'n']

def value : PurchaseGroup → String
  | product id | packaging id | shopProduct id => id
  | manualName name | shopName name => encodeName name

def filter (storeId currency : String) : PurchaseGroup → PurchaseWhere
  | product id =>
    { storeId, source := .manual, warehouseProductId := some id, currency := some currency }
  | packaging id =>
    { storeId, source := .manual, packagingMaterialId := some id, currency := some currency }
  | shopProduct id =>
    { storeId, source := .shop, shopProductId := some id, currency := some currency }
  | manualName name =>
    { storeId, source := .manual, warehouseProductId := some none, packagingMaterialId := some none
      productName := some name, currency := some currency }
  | shopName name =>
    { storeId, source := .shop, shopProductId := some none, productName := some name
      currency := some currency }

end PurchaseGroup

def groupOf (p : MerchantPurchase) : PurchaseGroup :=
  match p.source, truthy p.warehouseProductId, truthy p.packagingMaterialId,
    truthy p.shopProductId with
  | .manual, some id, _, _ => .product id
  | .manual, none, some id, _ => .packaging id
  | .shop, _, _, some id => .shopProduct id
  | .manual, none, none, _ => .manualName p.productName
  | .shop, _, _, none => .shopName p.productName

/-- **What is known of a purchase**: at most one link to a row of the warehouse, a name, a currency,
and identifiers without a tilde. -/
structure Grouped (p : MerchantPurchase) : Prop where
  linked : p.warehouseProductId = none ∨ p.packagingMaterialId = none
  named : p.productName ≠ ""
  currency : isCurrency p.currency.toList = true
  ids : ∀ id, p.warehouseProductId = some id ∨ p.packagingMaterialId = some id ∨
    p.shopProductId = some id → id ≠ "" ∧ '~' ∉ id.toList

section Keys

variable {replaced : ByteArray → String} {storeId : String} {p : MerchantPurchase}

theorem groupKey_eq (p : MerchantPurchase) : (groupKey p).toList =
    (groupOf p).kind ++ '_' :: (groupOf p).value.toList ++ '~' :: p.currency.toList := by
  have hlegacy : (legacyGroupKey p).toList =
      (groupOf p).kind ++ '_' :: (groupOf p).value.toList := by
    rw [legacyGroupKey, groupOf]
    split <;> rw [String.toList_append] <;> rfl
  rw [groupKey, String.toList_append, String.toList_append, hlegacy, List.append_assoc]
  rfl

theorem truthy_eq {value : Option String} (h : ∀ text, value = some text → text ≠ "") :
    truthy value = value := by
  cases value with
  | none => rfl
  | some text => exact if_neg (h text rfl)

theorem encodeName_ne {name : String} (h : name ≠ "") : encodeName name ≠ "" := fun hempty => by
  have hread := decodeName_encodeName (fun _ => "") name
  rw [hempty] at hread
  exact h (hread.symm.trans (decodeName_encodeName (fun _ => "") ""))

theorem Grouped.value (h : Grouped p) :
    (groupOf p).value ≠ "" ∧ '~' ∉ (groupOf p).value.toList := by
  have hname : encodeName p.productName ≠ "" ∧ '~' ∉ (encodeName p.productName).toList := by
    refine ⟨encodeName_ne h.named, ?_⟩
    rw [encodeName, String.toList_ofList]
    exact tilde_notMem_toBase64url _
  rw [groupOf]
  split
  · exact h.ids _ (.inl (JsText.truthy_some ‹_›).1)
  · exact h.ids _ (.inr (.inl (JsText.truthy_some ‹_›).1))
  · exact h.ids _ (.inr (.inr (JsText.truthy_some ‹_›).1))
  · exact hname
  · exact hname

variable {group : PurchaseGroup}

theorem plainWhere_key (hvalue : group.value ≠ "") (currency : String) :
    plainWhere replaced storeId (group.kind ++ '_' :: group.value.toList) =
      .ok { group.filter storeId currency with currency := none } := by
  have hnonempty : group.value.toList ≠ [] := fun hnil =>
    hvalue (String.toList_injective hnil)
  have hvalue : ((group.kind ++ '_' :: group.value.toList).dropWhile (· ≠ '_')).tail =
      group.value.toList := by cases group <;> rfl
  have hkind : (group.kind ++ '_' :: group.value.toList).takeWhile (· ≠ '_') = group.kind := by
    cases group <;> rfl
  rw [plainWhere, hvalue, hkind, if_neg hnonempty]
  cases group with
  | product id =>
    rw [PurchaseGroup.value, String.ofList_toList]
    rfl
  | packaging id =>
    rw [PurchaseGroup.value, String.ofList_toList]
    rfl
  | shopProduct id =>
    rw [PurchaseGroup.value, String.ofList_toList]
    rfl
  | manualName name =>
    rw [PurchaseGroup.value, decodeName_encodeName]
    rfl
  | shopName name =>
    rw [PurchaseGroup.value, decodeName_encodeName]
    rfl

theorem whereForKey_key (hvalue : group.value ≠ "") (htilde : '~' ∉ group.value.toList)
    {currency : String} (hcurrency : isCurrency currency.toList = true) :
    whereForKey replaced storeId
        (group.kind ++ '_' :: group.value.toList ++ '~' :: currency.toList) =
      .ok (group.filter storeId currency) := by
  have hupper : '~' ∉ currency.toList := fun hmem => by
    have hall := (Bool.and_eq_true_iff.1 hcurrency).2
    exact absurd (List.all_eq_true.1 hall _ hmem) (by decide)
  have hfront : '~' ∉ group.kind ++ '_' :: group.value.toList := by
    rw [List.mem_append, List.mem_cons]
    have hkind : '~' ∉ group.kind := by cases group <;> simp [PurchaseGroup.kind]
    rintro (hmem | hmem | hmem)
    · exact hkind hmem
    · exact absurd hmem (by decide)
    · exact htilde hmem
  have hplain : whereForKey replaced storeId (group.kind ++ '_' :: group.value.toList) =
      plainWhere replaced storeId (group.kind ++ '_' :: group.value.toList) := by
    rw [whereForKey]
    split
    · rename_i hsplit
      rw [splitLast_none hfront] at hsplit
      cases hsplit
    · rfl
  rw [whereForKey]
  split
  · rename_i front text hsplit
    rw [splitLast_append hupper] at hsplit
    obtain ⟨rfl, rfl⟩ := Prod.mk.inj (Option.some.inj hsplit)
    rw [hcurrency, hplain, plainWhere_key hvalue ""]
    simp only [Except.map, String.ofList_toList]
    cases group <;> rfl
  · rename_i hsplit
    rw [splitLast_append hupper] at hsplit
    cases hsplit

theorem filter_selects (h : Grouped p) (group : PurchaseGroup) (currency : String) :
    (group.filter storeId currency).selects p = true ↔
      p.storeId = storeId ∧ groupOf p = group ∧ p.currency = currency := by
  have hsame : groupOf p = match p.source, p.warehouseProductId, p.packagingMaterialId,
      p.shopProductId with
    | .manual, some id, _, _ => .product id
    | .manual, none, some id, _ => .packaging id
    | .shop, _, _, some id => .shopProduct id
    | .manual, none, none, _ => .manualName p.productName
    | .shop, _, _, none => .shopName p.productName := by
    rw [groupOf, truthy_eq fun id hid => (h.ids id (.inl hid)).1,
      truthy_eq fun id hid => (h.ids id (.inr (.inl hid))).1,
      truthy_eq fun id hid => (h.ids id (.inr (.inr hid))).1]
  have hlinked := h.linked
  rw [hsame, PurchaseWhere.selects_iff]
  split <;> cases group <;> simp_all [PurchaseGroup.filter]

theorem groupOf_source {p r : MerchantPurchase} (h : groupOf p = groupOf r) :
    p.source = r.source := by
  rw [groupOf, groupOf] at h
  split at h <;> split at h <;> simp_all

theorem filter_inj {group' : PurchaseGroup} {currency currency' : String}
    (h : group.filter storeId currency = group'.filter storeId currency') :
    group = group' ∧ currency = currency' := by
  cases group <;> cases group' <;> simp_all [PurchaseGroup.filter]

/-- **Rows are in one group** if what they are about and the currencies are the same. -/
theorem groupKey_eq_iff {p r : MerchantPurchase} (hp : Grouped p) (hr : Grouped r) :
    groupKey p = groupKey r ↔ groupOf p = groupOf r ∧ p.currency = r.currency := by
  constructor
  · intro h
    have hread : whereForKey (fun _ => "") "" _ = _ :=
      whereForKey_key hp.value.1 hp.value.2 hp.currency
    rw [← groupKey_eq, h, groupKey_eq, whereForKey_key hr.value.1 hr.value.2 hr.currency] at hread
    obtain ⟨hgroup, hcurrency⟩ := filter_inj (Except.ok.inj hread)
    exact ⟨hgroup.symm, hcurrency.symm⟩
  · rintro ⟨hgroup, hcurrency⟩
    refine String.toList_injective ?_
    rw [groupKey_eq, groupKey_eq, hgroup, hcurrency]

end Keys

/-! ### The list and the pages -/

def addToGroups (groups : List (String × List MerchantPurchase)) (row : MerchantPurchase) :
    List (String × List MerchantPurchase) :=
  if groups.any fun group => group.1 = groupKey row then
    groups.map fun group =>
      if group.1 = groupKey row then (group.1, group.2 ++ [row]) else group
  else groups ++ [(groupKey row, [row])]

structure GroupRow where
  key : String
  totalQuantity : ℤ
  totalCost : String
  currency : String
  purchaseCount : ℕ

structure GroupPage where
  totalQuantity : ℤ
  totalCost : Option String
  currency : Option String
  purchaseCount : ℕ

variable (rows : List MerchantPurchase)

def totalQuantity : ℤ := (rows.map (·.quantity)).sum

def totalCost : String :=
  Shop.toFixed2 (rows.map fun row => row.totalCost.1).sum

def groupPage : Except String GroupPage :=
  match rows with
  | [] => .error "Purchase group not found"
  | latest :: _ =>
    let oneCurrency := (rows.map (·.currency)).dedup.length = 1
    .ok
      { totalQuantity := totalQuantity rows
        totalCost := if oneCurrency then some (totalCost rows) else none
        currency := if oneCurrency then some latest.currency else none
        purchaseCount := rows.length }

section Pages

variable (replaced : ByteArray → String) (order : List MerchantPurchase → List MerchantPurchase)
  (purchases : List MerchantPurchase) (storeId : String)

def list (source : Option MerchantPurchaseSource) : List GroupRow :=
  let rows := order (purchases.filter fun p =>
    p.storeId = storeId && source.all fun source => p.source = source)
  (rows.foldl addToGroups []).map fun (key, rows) =>
    { key, totalQuantity := totalQuantity rows, totalCost := totalCost rows
      currency := (rows.head?.map (·.currency)).getD "", purchaseCount := rows.length }

def group (key : String) : Except String GroupPage := do
  let filter ← whereForKey replaced storeId key.toList
  groupPage (order (purchases.filter filter.selects))

end Pages

theorem mem_foldl_addToGroups {rows : List MerchantPurchase} :
    ∀ group ∈ rows.foldl addToGroups [],
      group.2 = rows.filter (groupKey · = group.1) ∧ group.1 ∈ rows.map groupKey := by
  have hinv : (∀ key ∈ rows.map groupKey, key ∈ (rows.foldl addToGroups []).map Prod.fst) ∧
      ∀ group ∈ rows.foldl addToGroups [],
        group.2 = rows.filter (groupKey · = group.1) ∧ group.1 ∈ rows.map groupKey := by
    induction rows using List.reverseRecOn with
    | nil => exact ⟨nofun, nofun⟩
    | append_singleton rows row ih =>
      obtain ⟨hall, hgroups⟩ := ih
      rw [List.foldl_append, List.foldl_cons, List.foldl_nil, addToGroups]
      generalize rows.foldl addToGroups [] = groups at hall hgroups ⊢
      have hkeys : ∀ key, key ∈ (rows ++ [row]).map groupKey ↔
          key ∈ rows.map groupKey ∨ key = groupKey row := by simp [eq_comm]
      have hother : ∀ group : String × List MerchantPurchase, group.1 ≠ groupKey row →
          (rows ++ [row]).filter (groupKey · = group.1) = rows.filter (groupKey · = group.1) :=
        fun group hne => by simp [hne.symm]
      have hadded : (rows ++ [row]).filter (groupKey · = groupKey row) =
          rows.filter (groupKey · = groupKey row) ++ [row] := by simp
      split
      · rename_i hany
        have hmap : (groups.map fun group =>
            if group.1 = groupKey row then (group.1, group.2 ++ [row]) else group).map Prod.fst =
            groups.map Prod.fst := by
          rw [List.map_map]
          refine List.map_congr_left fun group _ => ?_
          rw [Function.comp_apply]
          split <;> rfl
        rw [hmap]
        refine ⟨fun key hkey => ?_, fun group hgroup => ?_⟩
        · rcases (hkeys key).1 hkey with hold | rfl
          · exact hall key hold
          · obtain ⟨group, hgroup, hsame⟩ := List.any_eq_true.1 hany
            exact List.mem_map.2 ⟨group, hgroup, of_decide_eq_true hsame⟩
        · obtain ⟨old, hold, rfl⟩ := List.mem_map.1 hgroup
          split
          · rename_i hsame
            dsimp only
            rw [(hgroups old hold).1, hsame, hadded]
            exact ⟨rfl, (hkeys _).2 (.inr rfl)⟩
          · rename_i hne
            rw [hother old hne]
            exact ⟨(hgroups old hold).1, (hkeys _).2 (.inl (hgroups old hold).2)⟩
      · rename_i hnone
        have hnew : groupKey row ∉ groups.map Prod.fst := fun hmem => by
          obtain ⟨group, hgroup, hsame⟩ := List.mem_map.1 hmem
          exact hnone (List.any_eq_true.2 ⟨group, hgroup, decide_eq_true hsame⟩)
        refine ⟨fun key hkey => ?_, fun group hgroup => ?_⟩
        · rw [List.map_append, List.mem_append]
          exact ((hkeys key).1 hkey).imp (hall key) fun hsame => List.mem_singleton.2 hsame
        · rcases Ledger.mem_concat.1 hgroup with hold | rfl
          · rw [hother group fun hsame => hnew (hsame ▸ List.mem_map_of_mem hold)]
            exact ⟨(hgroups group hold).1, (hkeys _).2 (.inl (hgroups group hold).2)⟩
          · have hempty : rows.filter (groupKey · = groupKey row) = [] :=
              List.filter_eq_nil_iff.2 fun other hmem hsame =>
                hnew (hall _ (of_decide_eq_true hsame ▸ List.mem_map_of_mem hmem))
            dsimp only
            rw [hadded, hempty]
            exact ⟨rfl, (hkeys _).2 (.inr rfl)⟩
  exact hinv.2

section Selected

variable {purchases : List MerchantPurchase} {storeId : String}

theorem whereForKey_selects (hgrouped : ∀ p ∈ purchases, p.storeId = storeId → Grouped p)
    (replaced : ByteArray → String) {r : MerchantPurchase} (hr : r ∈ purchases)
    (hstore : r.storeId = storeId) :
    ∃ filter, whereForKey replaced storeId (groupKey r).toList = .ok filter ∧
      purchases.filter filter.selects =
        purchases.filter fun p => p.storeId = storeId && groupKey p = groupKey r := by
  have hrow := hgrouped r hr hstore
  refine ⟨(groupOf r).filter storeId r.currency, ?_, List.filter_congr fun p hp => ?_⟩
  · rw [groupKey_eq, whereForKey_key hrow.value.1 hrow.value.2 hrow.currency]
  · rw [Bool.eq_iff_iff, Bool.and_eq_true, decide_eq_true_eq, decide_eq_true_eq]
    by_cases hsame : p.storeId = storeId
    · rw [filter_selects (hgrouped p hp hsame), groupKey_eq_iff (hgrouped p hp hsame) hrow]
    · refine iff_of_false (fun hselects => hsame ?_) fun h => hsame h.1
      have hwhich := (PurchaseWhere.selects_iff.1 hselects).1
      cases hgroup : groupOf r <;> rw [hgroup] at hwhich <;> exact hwhich

theorem group_of_list (hgrouped : ∀ p ∈ purchases, p.storeId = storeId → Grouped p)
    (replaced : ByteArray → String) {order : List MerchantPurchase → List MerchantPurchase}
    (horder : ∀ rows, (order rows).Perm rows) (source : Option MerchantPurchaseSource)
    {row : GroupRow} (hrow : row ∈ list order purchases storeId source) :
    ∃ page, group replaced order purchases storeId row.key = .ok page ∧
      page.totalQuantity = row.totalQuantity ∧ page.totalCost = some row.totalCost ∧
      page.currency = some row.currency ∧ page.purchaseCount = row.purchaseCount := by
  obtain ⟨⟨key, rows⟩, hgroup, rfl⟩ := List.mem_map.1 hrow
  obtain ⟨hrows, hkey⟩ := mem_foldl_addToGroups _ hgroup
  obtain ⟨r, hr, hkey⟩ := List.mem_map.1 hkey
  dsimp only at hrows hkey
  subst hkey
  rw [(horder _).mem_iff, List.mem_filter, Bool.and_eq_true, decide_eq_true_eq] at hr
  obtain ⟨hr, hstore, hsource⟩ := hr
  obtain ⟨filter, hwhere, hselected⟩ := whereForKey_selects hgrouped replaced hr hstore
  have hsame : ∀ p ∈ purchases, p.storeId = storeId →
      (groupKey p = groupKey r ↔ groupOf p = groupOf r ∧ p.currency = r.currency) :=
    fun p hp hown => groupKey_eq_iff (hgrouped p hp hown) (hgrouped r hr hstore)
  -- both consist of the rows of the store that have the key
  have hperm : rows.Perm (order (purchases.filter filter.selects)) := by
    rw [hrows, hselected]
    refine ((horder _).filter _).trans (List.Perm.trans ?_ (horder _).symm)
    rw [List.filter_filter]
    refine List.Perm.of_eq (List.filter_congr fun p hp => ?_)
    rw [Bool.eq_iff_iff, Bool.and_eq_true, Bool.and_eq_true, Bool.and_eq_true,
      decide_eq_true_eq, decide_eq_true_eq]
    refine ⟨fun h => ⟨h.2.1, h.1⟩, fun h => ⟨h.2, h.1, ?_⟩⟩
    rwa [groupOf_source ((hsame p hp h.1).1 h.2).1]
  have hcurrency : ∀ p ∈ rows, p.currency = r.currency := fun p hp => by
    rw [hrows] at hp
    obtain ⟨hmem, hkey⟩ := List.mem_filter.1 hp
    rw [(horder _).mem_iff, List.mem_filter, Bool.and_eq_true, decide_eq_true_eq] at hmem
    exact ((hsame p hmem.1 hmem.2.1).1 (of_decide_eq_true hkey)).2
  have hrowsMem : r ∈ rows := by
    rw [hrows]
    refine List.mem_filter.2 ⟨(horder _).mem_iff.2 (List.mem_filter.2 ⟨hr, ?_⟩), ?_⟩
    · rw [Bool.and_eq_true, decide_eq_true_eq]
      exact ⟨hstore, hsource⟩
    · exact decide_eq_true rfl
  have hrun : group replaced order purchases storeId (groupKey r) =
      groupPage (order (purchases.filter filter.selects)) := by
    rw [group, hwhere]
    rfl
  dsimp only
  rw [hrun]
  generalize order (purchases.filter filter.selects) = selected at hperm
  obtain ⟨first, firsts, rfl⟩ := List.exists_cons_of_ne_nil (List.ne_nil_of_mem hrowsMem)
  obtain ⟨latest, others, rfl⟩ := List.exists_cons_of_ne_nil
    (List.ne_nil_of_mem (hperm.mem_iff.1 hrowsMem))
  have hone : ((latest :: others).map (·.currency)).dedup.length = 1 := by
    rw [List.map_eq_replicate_iff.2 fun p hp => hcurrency p (hperm.mem_iff.2 hp),
      List.replicate_dedup (by simp)]
    rfl
  have hcost : totalCost (latest :: others) = totalCost (first :: firsts) := by
    rw [totalCost, totalCost, (hperm.map _).sum_eq]
  have hlatest : latest.currency = first.currency :=
    (hcurrency latest (hperm.mem_iff.2 List.mem_cons_self)).trans
      (hcurrency first List.mem_cons_self).symm
  exact ⟨_, rfl, (hperm.map _).sum_eq.symm, (if_pos hone).trans (congrArg some hcost),
    (if_pos hone).trans (congrArg some hlatest), hperm.length_eq.symm⟩

end Selected

def deletedTea : MerchantPurchase where
  id := "purchase"
  storeId := "store"
  source := .manual
  expenseId := none
  productName := "Thé~vert"
  unitLabel := "box"
  imageUrl := none
  quantity := 3
  unitPrice := store4 2
  totalCost := store4 6
  currency := "MAD"
  purchaseDate := 0
  notes := none
  createdByUserId := none

end Zomaal.Purchasing
