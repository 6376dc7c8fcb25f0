/-
**Product categories, moved by several users at once.**

`update` refuses to move a category below itself: it walks up from the proposed parent, reading one
parent for each query, and writes the new parent afterwards.  This module embeds `create`, `update`,
`assertNoCycle` and `uniqueSlug` of `category.service.ts`, a step for each query.

Main results:

* `Categories.categoryTree` — **the hierarchy stays a forest in the runs that move outside**;
* `Categories.movesOutside_of_undisturbed` — moves are so if what the walk read is still so;
* `Categories.categoryTree_crossed` — two moves that cross.
-/

import Mathlib.Data.List.Perm.Subperm
import Zomaal.JsText
import Zomaal.KeyedRows
import Zomaal.MachineRun
import Zomaal.ParentLinks
import Zomaal.ThreadPool

set_option autoImplicit false

namespace Zomaal.Categories

open ParentLinks

/-! ### The categories of a store -/

structure ProductCategory where
  id : String
  name : String
  slug : String
  description : Option String
  parentId : Option String
  position : ℕ
  isActive : Bool

structure CreateProductCategoryDto where
  name : String
  description : Option String := none
  parentId : Option String := none
  position : Option ℕ := none

/-- A field that is left out is not changed; a description or a parent may be `null`. -/
structure UpdateProductCategoryDto where
  name : Option String := none
  description : Option (Option String) := none
  parentId : Option (Option String) := none
  position : Option ℕ := none
  isActive : Option Bool := none

/-- `findFirst({ where: { id, storeId } })`. -/
def find (rows : List ProductCategory) (id : String) : Option ProductCategory :=
  KeyedRows.lookup ProductCategory.id id rows

def parentOf (rows : List ProductCategory) (id : String) : Option String :=
  (find rows id).bind ProductCategory.parentId

/-- `value?.trim() || null`. -/
def trimmed (value : Option String) : Option String := JsText.truthy (value.map JsText.trim)

/-- `slugify(value) || 'category'`. -/
def slugBase (slugify : String → String) (value : String) : String :=
  if slugify value = "" then "category" else slugify value

def slugCandidate (base : String) (suffix : ℕ) : String :=
  if suffix = 1 then base else base ++ "-" ++ toString suffix

/-- The slug belongs to another category than the one that is left out. -/
def slugTaken (rows : List ProductCategory) (ignoreId : Option String) (slug : String) : Bool :=
  rows.any fun row => row.slug = slug ∧ some row.id ≠ ignoreId

/-! ### Calls -/

/-- A call of `create` or of `update`. -/
inductive Request
  | create (dto : CreateProductCategoryDto)
  | update (categoryId : String) (dto : UpdateProductCategoryDto)

/-- What a call throws.  The database refuses a write that violates a constraint, and it may fail.
-/
inductive CategoryError
  | notFound (message : String)
  | conflict (message : String)
  | database

inductive Phase
  | requireCategory
  | requireParent (parentId : String)
  /-- `assertNoCycle` reads the parent of `cursor`. -/
  | walk (cursor : String)
  | uniqueSlug (name : String) (suffix : ℕ)
  | write (slug : Option String)
  | done (result : Except CategoryError Unit)

/-- A call, and the ids that its `assertNoCycle` has visited. -/
structure Call where
  request : Request
  visited : List String := []
  phase : Phase

def Call.fail (call : Call) (error : CategoryError) : Call :=
  { call with phase := .done (.error error) }

def Request.checked : Request → Phase
  | .create dto => .uniqueSlug dto.name 1
  | .update _ dto =>
    match dto.name with
    | some name => .uniqueSlug name 1
    | none => .write none

def Request.start (request : Request) : Phase :=
  match request with
  | .create dto =>
    match dto.parentId with
    | some parentId => .requireParent parentId
    | none => request.checked
  | .update .. => .requireCategory

/-- The category that the call is about, if it is there already. -/
def Request.categoryId : Request → Option String
  | .create _ => none
  | .update categoryId _ => some categoryId

def Request.newParent : Request → Option String
  | .create _ => none
  | .update _ dto => dto.parentId.join

/-- `while (cursor)`: the walk goes on, it has met a cycle, or it is at its end. -/
def Call.climb (call : Call) : Option String → Call
  | none => { call with phase := call.request.checked }
  | some cursor =>
    if some cursor = call.request.categoryId ∨ cursor ∈ call.visited then
      call.fail (.conflict "Category hierarchy cannot contain a cycle")
    else { call with visited := call.visited ++ [cursor], phase := .walk cursor }

/-- The row that `create` writes. -/
def CreateProductCategoryDto.row (dto : CreateProductCategoryDto) (uuid slug : String) :
    ProductCategory where
  id := uuid
  name := JsText.trim dto.name
  slug := slug
  description := trimmed dto.description
  parentId := dto.parentId
  position := dto.position.getD 0
  isActive := true

/-- The columns that `update` writes. -/
def UpdateProductCategoryDto.apply (dto : UpdateProductCategoryDto) (slug : Option String)
    (row : ProductCategory) : ProductCategory :=
  { row with
    name := (dto.name.map JsText.trim).getD row.name
    slug := slug.getD row.slug
    description := (dto.description.map trimmed).getD row.description
    parentId := dto.parentId.getD row.parentId
    position := dto.position.getD row.position
    isActive := dto.isActive.getD row.isActive }

def parentThere (rows : List ProductCategory) (parentId : Option String) : Bool :=
  parentId.all fun parentId => (find rows parentId).isSome

/-- What the database says to a write: its keys are unique, and parents are categories. -/
def Request.accepted (rows : List ProductCategory) (uuid : String) (slug : Option String) :
    Request → Bool
  | .create dto =>
    (find rows uuid).isNone && !slug.any (slugTaken rows none) && parentThere rows dto.parentId
  | .update categoryId dto =>
    (find rows categoryId).isSome && !slug.any (slugTaken rows (some categoryId)) &&
      parentThere rows dto.parentId.join

def Request.written (rows : List ProductCategory) (uuid : String) (slug : Option String) :
    Request → List ProductCategory
  | .create dto => rows ++ [dto.row uuid (slug.getD "")]
  | .update categoryId dto =>
    KeyedRows.change ProductCategory.id categoryId (dto.apply slug) rows

variable (slugify : String → String)

/-- **The next query of a call**, and what follows from it.  A new row gets a random id. -/
def Call.turn (call : Call) (uuid : String) (rows : List ProductCategory) :
    List ProductCategory × Call :=
  match call.phase with
  | .requireCategory =>
    match call.request.categoryId.bind (find rows) with
    | none => (rows, call.fail (.notFound "Product category not found"))
    | some category =>
      match call.request.newParent with
      | none => (rows, { call with phase := call.request.checked })
      | some parentId =>
        if parentId = category.id then
          (rows, call.fail (.conflict "A category cannot be its own parent"))
        else (rows, { call with phase := .requireParent parentId })
  | .requireParent parentId =>
    match find rows parentId with
    | none => (rows, call.fail (.notFound "Product category not found"))
    | some _ =>
      match call.request with
      | .create _ => (rows, { call with phase := call.request.checked })
      | .update .. => (rows, call.climb (some parentId))
  | .walk cursor => (rows, call.climb (parentOf rows cursor))
  | .uniqueSlug name suffix =>
    let slug := slugCandidate (slugBase slugify name) suffix
    if slugTaken rows call.request.categoryId slug then
      if suffix < 1000 then (rows, { call with phase := .uniqueSlug name (suffix + 1) })
      else (rows, call.fail (.conflict "Unable to generate a unique category slug"))
    else (rows, { call with phase := .write (some slug) })
  | .write slug =>
    if call.request.accepted rows uuid slug then
      (call.request.written rows uuid slug, { call with phase := .done (.ok ()) })
    else (rows, call.fail .database)
  | .done _ => (rows, call)

/-! ### Runs -/

inductive Action
  | start (request : Request)
  | turn (i : ℕ) (uuid : String)
  | abort (i : ℕ)

abbrev Pool := ThreadPool (List ProductCategory) Call

def step (w : Pool) : Action → Pool
  | .start request => w.spawn { request, phase := request.start }
  | .turn i uuid =>
    match w.threads[i]? with
    | none => w
    | some call =>
      let (rows, call) := call.turn slugify uuid w.shared
      w.move i rows call
  | .abort i =>
    match w.threads[i]? with
    | none => w
    | some call => w.move i w.shared (call.fail .database)

/-- **What is expected of every state**: from every category one comes to a root, no category is its
own ancestor, and no walk has read more parents than there are categories. -/
structure TreeSound (w : Pool) : Prop where
  ends : ∀ id, Ends (parentOf w.shared) id
  noCycle : ∀ id, ¬ Ancestor (parentOf w.shared) id id
  reads : ∀ call ∈ w.threads, call.visited.length ≤ w.shared.length

/-- An update that writes a parent finds the category neither there nor above it. -/
def MovesOutside (w : Pool) : Action → Prop
  | .turn i uuid =>
    match w.threads[i]? with
    | some { request := .update categoryId dto, phase := .write slug, .. } =>
      (Request.update categoryId dto).accepted w.shared uuid slug →
      ∀ parentId, dto.parentId = some (some parentId) →
        ¬ Reaches (parentOf w.shared) parentId categoryId
    | _ => True
  | _ => True

structure Keyed (rows : List ProductCategory) : Prop where
  ids : (rows.map ProductCategory.id).Nodup
  parents : ∀ id parentId, parentOf rows id = some parentId → (find rows parentId).isSome

structure Hierarchy where
  rows : List ProductCategory
  keyed : Keyed rows
  forest : Forest (parentOf rows)

def Undisturbed (w : Pool) : Action → Prop
  | .turn i uuid =>
    match w.threads[i]? with
    | some { request := .update categoryId dto, visited, phase := .write slug } =>
      (Request.update categoryId dto).accepted w.shared uuid slug →
      dto.parentId.join.isSome → Follows (parentOf w.shared) visited
    | _ => True
  | _ => True

/-! ### What a write does to the links -/

variable {slugify} {rows : List ProductCategory}

theorem find_eq_none {id : String} :
    find rows id = none ↔ ∀ row ∈ rows, row.id ≠ id := KeyedRows.lookup_none _

theorem find_isSome_iff {id : String} :
    (find rows id).isSome ↔ id ∈ rows.map ProductCategory.id := by
  rw [List.mem_map, ← not_iff_not, Bool.not_eq_true, Option.isSome_eq_false_iff,
    Option.isNone_iff_eq_none, find_eq_none]
  constructor
  · rintro h ⟨row, hrow, rfl⟩
    exact h row hrow rfl
  · exact fun h row hrow heq => h ⟨row, hrow, heq⟩

theorem Keyed.isSome_of_reaches (h : Keyed rows) {id above : String}
    (hid : (find rows id).isSome) (hreach : Reaches (parentOf rows) id above) :
    (find rows above).isSome := by
  induction hreach with
  | refl => exact hid
  | tail _ hlink _ => exact h.parents _ _ hlink

theorem parentOf_created {row : ProductCategory} (hfree : find rows row.id = none) :
    parentOf (rows ++ [row]) = Function.update (parentOf rows) row.id row.parentId := by
  funext id
  rw [parentOf, find, KeyedRows.lookup_append_fresh _ hfree]
  by_cases hid : id = row.id
  · subst hid
    rw [if_pos rfl, Function.update_self]
    rfl
  · rw [if_neg hid, Function.update_of_ne hid]
    rfl

variable {categoryId : String}

theorem find_change {f : ProductCategory → ProductCategory} (hf : ∀ row, (f row).id = row.id)
    (id : String) :
    find (KeyedRows.change ProductCategory.id categoryId f rows) id =
      (find rows id).map fun row => if id = categoryId then f row else row :=
  KeyedRows.lookup_change ProductCategory.id hf rows

theorem parentOf_updated {dto : UpdateProductCategoryDto} {slug : Option String}
    (hthere : (find rows categoryId).isSome) :
    parentOf (KeyedRows.change ProductCategory.id categoryId (dto.apply slug) rows) =
      Function.update (parentOf rows) categoryId
        (dto.parentId.getD (parentOf rows categoryId)) := by
  funext id
  rw [parentOf, find_change (f := dto.apply slug) fun _ => rfl]
  obtain ⟨row, hrow⟩ := Option.isSome_iff_exists.1 hthere
  by_cases hid : id = categoryId
  · subst hid
    rw [Function.update_self, parentOf, hrow]
    simp [UpdateProductCategoryDto.apply]
  · rw [Function.update_of_ne hid, parentOf]
    cases find rows id with
    | none => rfl
    | some other => simp [hid]

theorem find_updated {id : String} {dto : UpdateProductCategoryDto} {slug : Option String} :
    (find (KeyedRows.change ProductCategory.id categoryId (dto.apply slug) rows) id).isSome =
      (find rows id).isSome := by
  rw [find_change (f := dto.apply slug) (fun _ => rfl), Option.isSome_map]

/-! ### What a write keeps -/

variable {request : Request} {uuid : String} {slug : Option String}

theorem find_written {id : String} (h : (find rows id).isSome) :
    (find (request.written rows uuid slug) id).isSome := by
  cases request with
  | create dto =>
    rw [find_isSome_iff] at h ⊢
    rw [Request.written, List.map_append]
    exact List.mem_append_left _ h
  | update categoryId dto =>
    rw [Request.written, find_updated]
    exact h

theorem Keyed.written (h : Keyed rows) (haccepted : request.accepted rows uuid slug) :
    Keyed (request.written rows uuid slug) := by
  have hkept : ∀ {parentId : String}, (find rows parentId).isSome →
      (find (request.written rows uuid slug) parentId).isSome := find_written
  cases request with
  | create dto =>
    simp only [Request.accepted, Bool.and_eq_true, Option.isNone_iff_eq_none] at haccepted
    obtain ⟨⟨hfree, -⟩, hparent⟩ := haccepted
    rw [Request.written] at hkept ⊢
    refine ⟨KeyedRows.nodup_append _ h.ids ?_, fun id parentId hlink => hkept ?_⟩
    · rw [← find_isSome_iff]
      exact fun hthere => by rw [CreateProductCategoryDto.row, hfree] at hthere; cases hthere
    · rw [parentOf_created hfree] at hlink
      by_cases hid : id = uuid
      · rw [hid, CreateProductCategoryDto.row, Function.update_self] at hlink
        rw [show dto.parentId = some parentId from hlink] at hparent
        exact hparent
      · rw [CreateProductCategoryDto.row, Function.update_of_ne hid] at hlink
        exact h.parents id parentId hlink
  | update categoryId dto =>
    simp only [Request.accepted, Bool.and_eq_true] at haccepted
    obtain ⟨⟨hthere, -⟩, hparent⟩ := haccepted
    rw [Request.written] at hkept ⊢
    refine ⟨?_, fun id parentId hlink => hkept ?_⟩
    · rw [KeyedRows.map_key_change ProductCategory.id (f := dto.apply slug) fun _ => rfl]
      exact h.ids
    · rw [parentOf_updated hthere] at hlink
      by_cases hid : id = categoryId
      · rw [hid, Function.update_self] at hlink
        cases hdto : dto.parentId with
        | none =>
          rw [hdto] at hlink
          exact h.parents categoryId parentId hlink
        | some link =>
          rw [hdto] at hlink hparent
          obtain rfl : link = some parentId := hlink
          exact hparent
      · rw [Function.update_of_ne hid] at hlink
        exact h.parents id parentId hlink

theorem forest_written_iff (h : Keyed rows) (hforest : Forest (parentOf rows))
    (haccepted : request.accepted rows uuid slug) :
    Forest (parentOf (request.written rows uuid slug)) ↔
      ∀ categoryId dto, request = .update categoryId dto →
        ∀ parentId, dto.parentId = some (some parentId) →
          ¬ Reaches (parentOf rows) parentId categoryId := by
  cases request with
  | create dto =>
    simp only [Request.accepted, Bool.and_eq_true, Option.isNone_iff_eq_none] at haccepted
    obtain ⟨⟨hfree, -⟩, hparent⟩ := haccepted
    refine ⟨fun _ _ _ heq => (nomatch heq), fun _ => ?_⟩
    rw [Request.written, parentOf_created hfree]
    cases hdto : dto.parentId with
    | none =>
      rw [CreateProductCategoryDto.row, hdto]
      exact hforest.unlink
    | some parentId =>
      rw [hdto] at hparent
      rw [CreateProductCategoryDto.row, hdto]
      refine hforest.relink_iff.2 fun hreach => ?_
      have hthere := h.isSome_of_reaches hparent hreach
      rw [hfree] at hthere
      cases hthere
  | update categoryId dto =>
    simp only [Request.accepted, Bool.and_eq_true] at haccepted
    rw [Request.written, parentOf_updated haccepted.1.1]
    cases hdto : dto.parentId with
    | none =>
      rw [Option.getD_none, Function.update_eq_self]
      refine ⟨fun _ _ _ heq _ hlink => ?_, fun _ => hforest⟩
      obtain ⟨-, rfl⟩ := Request.update.inj heq
      rw [hdto] at hlink
      cases hlink
    | some link =>
      rw [Option.getD_some]
      cases link with
      | none =>
        refine ⟨fun _ _ _ heq _ hlink => ?_, fun _ => hforest.unlink⟩
        obtain ⟨-, rfl⟩ := Request.update.inj heq
        rw [hdto] at hlink
        cases hlink
      | some parentId =>
        rw [hforest.relink_iff]
        constructor
        · intro hfar _ _ heq _ hlink
          obtain ⟨rfl, rfl⟩ := Request.update.inj heq
          rw [hdto] at hlink
          obtain rfl := Option.some.inj (Option.some.inj hlink)
          exact hfar
        · exact fun hfar => hfar categoryId dto rfl parentId hdto

/-! ### What a call knows -/

/-- A walk has visited categories, each once, not the one that is moved, and the proposed parent
first. -/
structure Call.Knows (rows : List ProductCategory) (call : Call) : Prop where
  nodup : call.visited.Nodup
  there : ∀ id ∈ call.visited, (find rows id).isSome
  outside : ∀ id ∈ call.visited, some id ≠ call.request.categoryId
  began :
    match call.phase with
    | .requireCategory => call.visited = []
    | .requireParent parentId =>
      call.visited = [] ∧ ∀ other, call.request.newParent = some other → other = parentId
    | .walk _ | .uniqueSlug .. | .write _ =>
      ∀ parentId, call.request.newParent = some parentId → call.visited.head? = some parentId
    | .done _ => True

variable {call : Call}

theorem Call.Knows.reads (h : call.Knows rows) : call.visited.length ≤ rows.length := by
  have hsubset : call.visited ⊆ rows.map ProductCategory.id :=
    fun id hid => find_isSome_iff.1 (h.there id hid)
  simpa using (h.nodup.subperm hsubset).length_le

theorem Call.Knows.mono {rows' : List ProductCategory} (h : call.Knows rows)
    (hrows : ∀ id, (find rows id).isSome → (find rows' id).isSome) : call.Knows rows' :=
  { h with there := fun id hid => hrows id (h.there id hid) }

theorem Call.Knows.finish (h : call.Knows rows) (result : Except CategoryError Unit) :
    ({ call with phase := .done result } : Call).Knows rows :=
  { h with began := trivial }

theorem Request.start_knows (request : Request) :
    ({ request, phase := request.start } : Call).Knows rows where
  nodup := List.nodup_nil
  there := fun _ h => nomatch h
  outside := fun _ h => nomatch h
  began := by
    cases request with
    | create dto =>
      dsimp only [Request.start]
      cases dto.parentId with
      | none => exact fun _ h => nomatch h
      | some parentId => exact ⟨rfl, fun _ h => nomatch h⟩
    | update categoryId dto => rfl

theorem Call.Knows.checked (h : call.Knows rows)
    (hbegan : ∀ parentId, call.request.newParent = some parentId →
      call.visited.head? = some parentId) :
    ({ call with phase := call.request.checked } : Call).Knows rows := by
  refine { h with began := ?_ }
  dsimp only
  cases hrequest : call.request with
  | create dto => exact fun _ hnone => nomatch hnone
  | update categoryId dto =>
    rw [hrequest] at hbegan
    cases hname : dto.name with
    | none => simpa only [Request.checked, hname] using hbegan
    | some name => simpa only [Request.checked, hname] using hbegan

theorem Call.Knows.climb (h : call.Knows rows) {cursor : Option String}
    (hcursor : ∀ id, cursor = some id → (find rows id).isSome)
    (hbegan : ∀ parentId, call.request.newParent = some parentId →
      (call.visited ++ cursor.toList).head? = some parentId) :
    (call.climb cursor).Knows rows := by
  cases cursor with
  | none =>
    refine h.checked fun parentId hparent => ?_
    simpa using hbegan parentId hparent
  | some cursor =>
    rw [Call.climb]
    split
    · exact h.finish _
    · rename_i hnew
      rw [not_or] at hnew
      refine ⟨?_, ?_, ?_, hbegan⟩
      · exact h.nodup.append (List.nodup_singleton _) (List.disjoint_singleton.2 hnew.2)
      · intro id hid
        rcases Ledger.mem_concat.1 hid with hid | hid
        · exact h.there id hid
        · exact hcursor id (congrArg some hid.symm)
      · intro id hid
        rcases Ledger.mem_concat.1 hid with hid | hid
        · exact h.outside id hid
        · exact hid ▸ hnew.1

theorem Call.Knows.turn (h : call.Knows rows) (hkeyed : Keyed rows) :
    (call.turn slugify uuid rows).2.Knows rows := by
  have hbegan := h.began
  rw [Call.turn]
  cases hphase : call.phase with
  | requireCategory =>
    rw [hphase] at hbegan
    dsimp only
    cases call.request.categoryId.bind (find rows) with
    | none => exact h.finish _
    | some category =>
      dsimp only
      cases hparent : call.request.newParent with
      | none => exact h.checked fun parentId hsome => by rw [hparent] at hsome; cases hsome
      | some parentId =>
        dsimp only
        split
        · exact h.finish _
        · refine { h with began := ⟨hbegan, fun other hother => ?_⟩ }
          exact (Option.some.inj (hparent.symm.trans hother)).symm
  | requireParent parentId =>
    rw [hphase] at hbegan
    dsimp only
    cases hfind : find rows parentId with
    | none => exact h.finish _
    | some parent =>
      dsimp only
      cases hrequest : call.request with
      | create dto =>
        have hchecked := h.checked fun _ hsome => by rw [hrequest] at hsome; cases hsome
        rwa [hrequest] at hchecked
      | update categoryId dto =>
        change (call.climb (some parentId)).Knows rows
        refine h.climb ?_ fun other hother => ?_
        · rintro _ ⟨⟩
          rw [hfind]
          rfl
        · rw [hbegan.1, hbegan.2 other hother]
          rfl
  | walk cursor =>
    rw [hphase] at hbegan
    refine h.climb (fun id hid => hkeyed.parents cursor id hid) fun parentId hparent => ?_
    rw [List.head?_append, hbegan parentId hparent]
    rfl
  | uniqueSlug name suffix =>
    rw [hphase] at hbegan
    dsimp only
    split
    · split
      · exact { h with began := hbegan }
      · exact h.finish _
    · exact { h with began := hbegan }
  | write slug =>
    dsimp only
    split <;> exact h.finish _
  | done result =>
    dsimp only
    exact h

theorem turn_rows :
    (call.turn slugify uuid rows).1 = rows ∧
        (∀ slug, call.phase = .write slug → ¬ call.request.accepted rows uuid slug) ∨
      ∃ slug, call.phase = .write slug ∧ call.request.accepted rows uuid slug ∧
        (call.turn slugify uuid rows).1 = call.request.written rows uuid slug := by
  rw [Call.turn]
  cases hphase : call.phase with
  | requireCategory =>
    refine .inl ⟨?_, fun _ h => nomatch h⟩
    dsimp only
    cases call.request.categoryId.bind (find rows) with
    | none => rfl
    | some category =>
      dsimp only
      cases call.request.newParent with
      | none => rfl
      | some parentId =>
        dsimp only
        split <;> rfl
  | requireParent parentId =>
    refine .inl ⟨?_, fun _ h => nomatch h⟩
    dsimp only
    cases find rows parentId with
    | none => rfl
    | some parent => cases call.request <;> rfl
  | walk cursor => exact .inl ⟨rfl, fun _ h => nomatch h⟩
  | uniqueSlug name suffix =>
    refine .inl ⟨?_, fun _ h => nomatch h⟩
    dsimp only
    split
    · split <;> rfl
    · rfl
  | write slug =>
    dsimp only
    by_cases haccepted : call.request.accepted rows uuid slug
    · rw [if_pos haccepted]
      exact .inr ⟨slug, rfl, haccepted, rfl⟩
    · rw [if_neg haccepted]
      refine .inl ⟨rfl, fun other hother => ?_⟩
      rwa [← Phase.write.inj hother]
  | done result => exact .inl ⟨rfl, fun _ h => nomatch h⟩

/-! ### Runs -/

/-- Ids are unique and parents are categories, and every call knows what it has visited. -/
abbrev Inv : Pool → Prop := ThreadPool.Inv Keyed Call.Knows fun _ _ => True

variable {w : Pool}

theorem Inv.step (h : Inv w) (action : Action) : Inv (step slugify w action) := by
  cases action with
  | start request => exact h.spawn (fun _ _ _ => trivial) request.start_knows fun _ _ => trivial
  | turn i uuid =>
    simp only [Categories.step]
    cases hcall : w.threads[i]? with
    | none => exact h
    | some call =>
      have hknows : (call.turn slugify uuid w.shared).2.Knows w.shared :=
        (h.thread i call hcall).turn h.shared
      dsimp only
      rcases @turn_rows slugify w.shared uuid call with ⟨hrows, -⟩ | ⟨slug, -, haccepted, hrows⟩
      · rw [hrows]
        exact h.move (fun _ _ _ => trivial) hcall h.shared hknows
          fun _ _ hother _ => ⟨hother, trivial⟩
      · rw [hrows]
        exact h.move (fun _ _ _ => trivial) hcall (h.shared.written haccepted)
          (hknows.mono fun _ => find_written)
          fun _ _ hother _ => ⟨hother.mono fun _ => find_written, trivial⟩
  | abort i =>
    simp only [Categories.step]
    cases hcall : w.threads[i]? with
    | none => exact h
    | some call =>
      exact h.move (fun _ _ _ => trivial) hcall h.shared ((h.thread i call hcall).finish _)
        fun _ _ hother _ => ⟨hother, trivial⟩

theorem Inv.treeSound_iff (h : Inv w) : TreeSound w ↔ Forest (parentOf w.shared) := by
  refine ⟨TreeSound.ends, fun hforest => ⟨hforest, hforest.not_ancestor_self, fun call hcall => ?_⟩⟩
  obtain ⟨i, hi⟩ := List.mem_iff_getElem?.1 hcall
  exact (h.thread i call hi).reads

theorem Inv.forest_step_iff (h : Inv w) (hforest : Forest (parentOf w.shared)) (action : Action) :
    Forest (parentOf (Categories.step slugify w action).shared) ↔ MovesOutside w action := by
  cases action with
  | start request => exact ⟨fun _ => trivial, fun _ => hforest⟩
  | abort i =>
    refine ⟨fun _ => trivial, fun _ => ?_⟩
    simp only [Categories.step]
    cases w.threads[i]? with
    | none => exact hforest
    | some call => exact hforest
  | turn i uuid =>
    simp only [Categories.step, MovesOutside]
    cases hcall : w.threads[i]? with
    | none => exact ⟨fun _ => trivial, fun _ => hforest⟩
    | some call =>
      dsimp only [ThreadPool.move]
      rcases @turn_rows slugify w.shared uuid call with
        ⟨hrows, hrefused⟩ | ⟨slug, hphase, haccepted, hrows⟩
      · rw [hrows]
        refine ⟨fun _ => ?_, fun _ => hforest⟩
        split
        · rename_i hsome
          obtain rfl := Option.some.inj hsome
          exact fun haccepted => absurd haccepted (hrefused _ rfl)
        · trivial
      · rw [hrows, forest_written_iff h.shared hforest haccepted]
        obtain ⟨request, visited, phase⟩ := call
        obtain rfl : phase = .write slug := hphase
        cases request with
        | create dto => exact ⟨fun _ => trivial, fun _ _ _ heq => nomatch heq⟩
        | update categoryId dto =>
          constructor
          · exact fun hfar _ parentId hparent => hfar categoryId dto rfl parentId hparent
          · intro hfar _ _ heq
            obtain ⟨rfl, rfl⟩ := Request.update.inj heq
            exact hfar haccepted

theorem Hierarchy.inv (start : Hierarchy) : Inv { shared := start.rows } :=
  ThreadPool.Inv.start start.keyed

/-- **The product category tree.**  However calls of `create` and `update` interleave, whatever
state they reach is a forest whose walks read no more than its categories, exactly if every accepted
update that writes a parent finds the category neither there nor above it. -/
theorem categoryTree (start : Hierarchy) (actions : List Action) :
    Machine.Along (step slugify) (fun w action => TreeSound (step slugify w action))
        { shared := start.rows } actions ↔
      Machine.Along (step slugify) MovesOutside { shared := start.rows } actions := by
  refine Machine.Along.iff_of_keeps
    (I := fun w => Inv w ∧ Forest (parentOf w.shared)) ?_ ?_ ⟨start.inv, start.forest⟩
  · exact fun w action h hsound => ⟨h.1.step action, hsound.ends⟩
  · exact fun w action h =>
      (h.1.step action).treeSound_iff.trans (h.1.forest_step_iff h.2 action)

/-- **Moves are outside if what the walk read is still so.** -/
theorem movesOutside_of_undisturbed (start : Hierarchy) {actions : List Action}
    (h : Machine.Along (step slugify) Undisturbed { shared := start.rows } actions) :
    Machine.Along (step slugify) MovesOutside { shared := start.rows } actions := by
  refine Machine.Along.of_keeps (I := Inv) (fun w action hw _ => hw.step action) ?_ start.inv h
  intro w action hw hundisturbed
  cases action with
  | start request => trivial
  | abort i => trivial
  | turn i uuid =>
    simp only [MovesOutside, Undisturbed] at hundisturbed ⊢
    split
    · rename_i categoryId dto visited slug hcall
      rw [hcall] at hundisturbed
      intro haccepted parentId hparent
      have hnew : dto.parentId.join = some parentId := by rw [hparent]; rfl
      have hknows := hw.thread i _ hcall
      obtain ⟨rest, rfl⟩ := List.head?_eq_some_iff.1 (hknows.began parentId hnew)
      refine (hundisturbed haccepted (hnew ▸ rfl)).not_reaches fun hmem => ?_
      exact hknows.outside categoryId hmem rfl
    · trivial

/-! ### Two moves that cross -/

def rootCategory (id : String) : ProductCategory where
  id := id
  name := id
  slug := id
  description := none
  parentId := none
  position := 0
  isActive := true

theorem parentOf_roots (id : String) :
    parentOf [rootCategory "phones", rootCategory "cases"] id = none := by
  simp only [parentOf, find, KeyedRows.lookup, List.find?_cons, List.find?_nil]
  split
  · rfl
  · split <;> rfl

def twoRoots : Hierarchy where
  rows := [rootCategory "phones", rootCategory "cases"]
  keyed := ⟨by decide, fun id _ h => by rw [parentOf_roots] at h; cases h⟩
  forest := fun id => .root (parentOf_roots id)

/-- Each of the two is moved below the other, and each call has looked before the other writes. -/
def crossedMoves : List Action :=
  [.start (.update "phones" { parentId := some (some "cases") }),
    .start (.update "cases" { parentId := some (some "phones") }),
    .turn 0 "", .turn 0 "", .turn 0 "", .turn 1 "", .turn 1 "", .turn 1 "", .turn 0 ""]

/-- **Two moves that cross** put each category below the other. -/
theorem categoryTree_crossed :
    ¬ Machine.Along (step id) (fun w action => TreeSound (step id w action))
      { shared := twoRoots.rows } (crossedMoves ++ [.turn 1 ""]) := by
  intro h
  have hsound := (Machine.Along.append.1 h).2.1
  refine hsound.noCycle "phones" (Relation.TransGen.tail (b := "cases") (.single ?_) ?_)
  · decide +kernel
  · decide +kernel

/-! ### Moves that nothing disturbs -/

/-- **Undisturbed moves keep the tree**: however calls interleave, if what the walk of a move read is
still so when the move is written, every state reached is sound. -/
theorem undisturbedTree (start : Hierarchy) {actions : List Action}
    (h : Machine.Along (step slugify) Undisturbed { shared := start.rows } actions) :
    Machine.Along (step slugify) (fun w action => TreeSound (step slugify w action))
      { shared := start.rows } actions := by
  refine Machine.Along.of_keeps (I := fun w => Inv w ∧ Forest (parentOf w.shared))
    (fun w action hw hmoves => ⟨hw.1.step action, (hw.1.forest_step_iff hw.2 action).2 hmoves⟩)
    (fun w action hw hmoves => ?_) ⟨start.inv, start.forest⟩ (movesOutside_of_undisturbed start h)
  exact (hw.1.step action).treeSound_iff.2 ((hw.1.forest_step_iff hw.2 action).2 hmoves)

theorem undisturbedTree_move :
    Machine.Along (step id) (fun w action => TreeSound (step id w action)) { shared := twoRoots.rows }
      [.start (.update "phones" { parentId := some (some "cases") }),
        .turn 0 "", .turn 0 "", .turn 0 "", .turn 0 ""] :=
  undisturbedTree twoRoots
    ⟨trivial, trivial, trivial, trivial, fun _ _ => parentOf_roots "cases", trivial⟩

end Zomaal.Categories
