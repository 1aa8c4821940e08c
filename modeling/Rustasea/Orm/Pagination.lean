import Rustasea.Orm.QueryRows

namespace Rustasea.Orm.Pagination

open ListWindows QueryBuilder

/-!
# Pages of a query

`paginate` counts the rows of a query, selects one page of them and adds the
links to the other pages.  The pages are told apart by an offset of the page
size; the count is of the table and the filter alone.
-/

open DecimalText (u64Max)
open ListWindows (divCeil window)

/-! ## Arithmetic of `u64` -/

/-- The successor, or nothing beyond a `u64`. -/
def checkedSucc (number : Nat) : Option Nat :=
  if number < u64Max then some (number + 1) else none

def checkedPred : Nat → Option Nat
  | 0 => none
  | number + 1 => some number

def saturatingMul (left right : Nat) : Nat := min (left * right) u64Max

/-! ## Links and paginators -/

/-- Page navigation links emitted with a paginator envelope. -/
structure Links where
  first : String
  prev : Option String
  next : Option String
  last : String
  deriving DecidableEq

def link (target : Nat) : String := "?page=" ++ toString target

/--
Build the navigation links for a 1-based `page` of `total` rows, or nothing
when the arithmetic overflows.
-/
def Links.forPage (page perPage total : Nat) : Option Links :=
  let page := max page 1
  let lastPage := if perPage = 0 then 1 else max (divCeil total perPage) 1
  let prev :=
    if 1 < page then (checkedPred page).map fun target => some (link target)
    else some none
  let next :=
    if page < lastPage then (checkedSucc page).map fun target => some (link target)
    else some none
  match prev, next with
  | some prev, some next =>
    some { first := link 1, prev := prev, next := next, last := link lastPage }
  | _, _ => none

/-- A page of rows with its metadata. -/
structure Paginator (Row : Type) where
  items : List Row
  currentPage : Nat
  perPage : Nat
  total : Nat
  lastPage : Nat
  links : Links
  deriving DecidableEq

variable {Json Record Row : Type}

namespace Paginator

/-- Compute a paginator; `total` is supplied by the caller. -/
def new (items : List Row) (currentPage perPage total : Nat) : Paginator Row where
  items := items
  currentPage := currentPage
  perPage := perPage
  total := total
  lastPage := if perPage = 0 then 0 else divCeil total perPage
  links :=
    { first := "", prev := none, next := none, last := "" }

/-- Populate the navigation links from the current page metadata. -/
def withLinks (paginator : Paginator Row) : Option (Paginator Row) :=
  (Links.forPage (max paginator.currentPage 1) paginator.perPage
    paginator.total).map fun links => { paginator with links := links }

def hasMore (paginator : Paginator Row) : Bool :=
  decide (paginator.currentPage < paginator.lastPage)

end Paginator

def scalarCount (count : Nat) : Nat :=
  if count ≤ u64Max then count else 0

/--
Offset-paginate the query, running the COUNT and the windowed SELECT, or
nothing when the arithmetic overflows.
-/
def paginate (backend : Backend Json) (database : QueryDatabase Json Record Row)
    (builder : QueryBuilder Json) (page perPage : UInt64) :
    Option (Except QueryError (Paginator Row)) :=
  let page := max page.toNat 1
  let perPage := max perPage.toNat 1
  match builder.resolved backend with
  | .error failure => some (.error (.orm failure))
  | .ok resolved =>
    match database.count resolved with
    | .error failure => some (.error failure)
    | .ok count =>
      let total := scalarCount count
      let offset := saturatingMul (page - 1) perPage
      match (resolved.withWindow (some perPage) (some offset)).get backend database with
      | .error failure => some (.error failure)
      | .ok items => ((Paginator.new items page perPage total).withLinks).map .ok

/-! ## What the pages are to be -/

/-- The metadata of a page agree with each other and with the rows. -/
structure Agrees (rows : List Row) (page perPage : UInt64) (paginator : Paginator Row) :
    Prop where
  isPage : paginator.currentPage = max page.toNat 1
  isSize : paginator.perPage = max perPage.toNat 1
  isTotal : paginator.total = rows.length
  isLastPage : paginator.lastPage = divCeil rows.length (max perPage.toNat 1)
  isNext : paginator.links.next =
      if paginator.hasMore then some (link (paginator.currentPage + 1))
      else none
  isPrev : paginator.links.prev =
      if 1 < paginator.currentPage then some (link (paginator.currentPage - 1))
      else none
  isFirst : paginator.links.first = link 1
  isLast : paginator.links.last = link paginator.lastPage

/-- The last page of some rows, or the bound on the pages that are asked for. -/
def reach (rows : List Row) (perPage bound : UInt64) : Nat :=
  max bound.toNat (divCeil rows.length (max perPage.toNat 1))

/--
The pages partition some rows: up to the last one, and up to a bound, every call
returns a page whose metadata agree; the pages up to the last one are the rows
in order, the pages before it are full, and the pages behind it are empty.
-/
structure Partitions (rows : List Row) (perPage bound : UInt64)
    (paged : UInt64 → Option (Except QueryError (Paginator Row))) (pages : UInt64 → Paginator Row) :
    Prop where
  returned : ∀ page, page.toNat ≤ reach rows perPage bound → paged page = some (.ok (pages page))
  agrees : ∀ page, Agrees rows page perPage (pages page)
  together : ((List.range (divCeil rows.length (max perPage.toNat 1))).flatMap
        fun before => (pages (UInt64.ofNat (before + 1))).items) =
      rows
  full : ∀ page, 1 ≤ page.toNat → page.toNat < divCeil rows.length (max perPage.toNat 1) →
      (pages page).items.length = max perPage.toNat 1
  behind : ∀ page, divCeil rows.length (max perPage.toNat 1) < page.toNat → (pages page).items = []

/-! ## The links of a page -/

theorem forPage_eq {page perPage total : Nat} (isPage : 1 ≤ page) (positive : 0 < perPage)
    (isTotal : total ≤ u64Max) :
    Links.forPage page perPage total = some
        { first := link 1
          prev := if 1 < page then some (link (page - 1)) else none
          next :=
            if page < max (divCeil total perPage) 1 then some (link (page + 1))
            else none
          last := link (max (divCeil total perPage) 1) } := by
  have small : divCeil total perPage ≤ total := divCeil_le total
  have isMax : max page 1 = page := Nat.max_eq_left isPage
  have prev :
      (if 1 < page then (checkedPred page).map fun target => some (link target)
      else some none) = some (if 1 < page then some (link (page - 1)) else none) := by
    split
    next =>
      obtain ⟨before, rfl⟩ := Nat.exists_eq_add_of_le' isPage
      rfl
    next => rfl
  have next :
      (if page < max (divCeil total perPage) 1 then
        (checkedSucc page).map fun target => some (link target)
      else some none) = some
          (if page < max (divCeil total perPage) 1 then some (link (page + 1))
          else none) := by
    split
    next hasNext =>
      rw [checkedSucc, if_pos (by omega)]
      rfl
    next => rfl
  simp only [Links.forPage, isMax, if_neg (Nat.ne_of_gt positive), prev, next]

/-! ## When the pages partition the rows -/

/-- The page that `paginate` makes of a count. -/
def pageOf (rows : List Row) (total : Nat) (perPage page : UInt64) : Paginator Row where
  items :=
    window (saturatingMul (max page.toNat 1 - 1) (max perPage.toNat 1)) (max perPage.toNat 1) rows
  currentPage := max page.toNat 1
  perPage := max perPage.toNat 1
  total := total
  lastPage := divCeil total (max perPage.toNat 1)
  links :=
    { first := link 1
      prev :=
        if 1 < max page.toNat 1 then some (link (max page.toNat 1 - 1))
        else none
      next :=
        if max page.toNat 1 < max (divCeil total (max perPage.toNat 1)) 1 then
          some (link (max page.toNat 1 + 1))
        else none
      last := link (max (divCeil total (max perPage.toNat 1)) 1) }

variable {backend : Backend Json} {database : QueryDatabase Json Record Row}
  {builder resolved : QueryBuilder Json} {rows : List Row}

/-- What `paginate` returns, unless the numbers of its window are refused. -/
theorem paginate_eq {count : Nat} (isResolved : builder.resolved backend = .ok resolved)
    (isResult : (resolved.withWindow none none).fetchResolved backend database = .ok rows)
    (counted : database.count resolved = .ok count) (page perPage : UInt64) :
    paginate backend database builder page perPage =
      some (if database.takes (max perPage.toNat 1)
          (saturatingMul (max page.toNat 1 - 1) (max perPage.toNat 1)) then
        .ok (pageOf rows (scalarCount count) perPage page)
      else .error (.storage "number out of range")) := by
  have isSelection : rows = database.selection resolved :=
    (of_fetchResolved isResult).1
  have isApplied := resolved_globalScopesApplied isResolved
  have items
      (size offset : Nat) : (resolved.withWindow (some size) (some offset)).get backend database =
        if database.takes size offset then .ok (window offset size rows)
        else .error (.storage "number out of range") := by
    have again : (resolved.withWindow (some size) (some offset)).resolved backend =
        .ok (resolved.withWindow (some size) (some offset)) :=
      resolved_of_globalScopesApplied backend isApplied
    rw [get_of_resolved again, isSelection]
    exact fetchResolved_withWindow isResult size offset
  have isPage : 1 ≤ max page.toNat 1 := Nat.le_max_right _ _
  have positive : 0 < max perPage.toNat 1 := Nat.le_max_right _ _
  have isTotal : scalarCount count ≤ u64Max := by
    unfold scalarCount
    split
    next small => exact small
    next => exact Nat.zero_le _
  simp only [paginate, isResolved, counted, items]
  cases database.takes (max perPage.toNat 1)
      (saturatingMul (max page.toNat 1 - 1) (max perPage.toNat 1)) with
  | false => rfl
  | true =>
    simp only [Paginator.withLinks, Paginator.new, Nat.max_eq_left isPage,
      forPage_eq isPage positive isTotal, if_neg (Nat.ne_of_gt positive)]
    rfl

variable {before size : Nat}

theorem le_saturatingMul (isCounted : rows.length ≤ u64Max) (positive : 0 < size)
    (isBehind : divCeil rows.length size ≤ before) : rows.length ≤ saturatingMul before size := by
  have covered := le_divCeil_mul positive rows.length
  have more := Nat.mul_le_mul_right size isBehind
  rw [saturatingMul]
  omega

theorem saturatingMul_eq (isCounted : rows.length ≤ u64Max)
    (isWithin : before < divCeil rows.length size) : saturatingMul before size = before * size := by
  have small := mul_lt_of_lt_divCeil isWithin
  rw [saturatingMul]
  omega

variable {perPage bound : UInt64}

theorem partitions_pageOf {paged : UInt64 → Option (Except QueryError (Paginator Row))}
    (isCounted : rows.length ≤ u64Max) (isNonempty : rows ≠ [])
    (returned : ∀ page, page.toNat ≤ reach rows perPage bound →
      paged page = some (.ok (pageOf rows rows.length perPage page))) :
    Partitions rows perPage bound paged (pageOf rows rows.length perPage) := by
  have positive : 0 < max perPage.toNat 1 := Nat.le_max_right _ _
  have someRows : 0 < rows.length := List.length_pos_iff.mpr isNonempty
  have somePages : 1 ≤ divCeil rows.length (max perPage.toNat 1) := by
    rw [Nat.one_le_iff_ne_zero, Ne, divCeil_eq_zero_iff positive]
    omega
  have isMax : max (divCeil rows.length (max perPage.toNat 1)) 1 =
      divCeil rows.length (max perPage.toNat 1) :=
    Nat.max_eq_left somePages
  refine ⟨returned, fun page => ?_, ?_, fun page isPage isBefore => ?_, fun page isBehind => ?_⟩
  · refine ⟨rfl, rfl, rfl, rfl, ?_, rfl, rfl, ?_⟩
    · simp [pageOf, Paginator.hasMore]
    · simp [pageOf, isMax]
  · have isWindow : ∀ before ∈ List.range (divCeil rows.length (max perPage.toNat 1)),
        (pageOf rows rows.length perPage (UInt64.ofNat (before + 1))).items =
          window (before * max perPage.toNat 1) (max perPage.toNat 1)
            rows := by
      intro before isBefore
      rw [List.mem_range] at isBefore
      have small : divCeil rows.length (max perPage.toNat 1) ≤ u64Max :=
        le_trans (divCeil_le _) isCounted
      have isNumber : (UInt64.ofNat (before + 1)).toNat = before + 1 := by
        rw [UInt64.toNat_ofNat']
        unfold u64Max at small
        omega
      have isPage : max (before + 1) 1 - 1 = before := by omega
      simp only [pageOf, isNumber, isPage, saturatingMul_eq isCounted isBefore]
    rw [List.flatMap_congr isWindow]
    exact flatMap_window_divCeil positive rows
  · have isWithin : max page.toNat 1 - 1 < divCeil rows.length (max perPage.toNat 1) := by omega
    have isFull := succ_mul_le_of_lt_divCeil
      (show max page.toNat 1 - 1 + 1 < divCeil rows.length (max perPage.toNat 1) by omega)
    simp only [pageOf, saturatingMul_eq isCounted isWithin, length_window]
    rw [Nat.succ_mul] at isFull
    omega
  · refine window_eq_nil
      (le_saturatingMul isCounted positive ?_)
    omega

/-- The database takes the numbers of every window up to the bound on the pages. -/
abbrev InRange (database : QueryDatabase Json Record Row) (perPage bound : UInt64) : Prop :=
  database.takes (max perPage.toNat 1)
    (saturatingMul (max bound.toNat 1 - 1) (max perPage.toNat 1)) = true

theorem takes_of_inRange (small : rows.length < 2 ^ 63) (inRange : InRange database perPage bound)
    {page : UInt64} (isAsked : page.toNat ≤ reach rows perPage bound) :
    database.takes (max perPage.toNat 1)
      (saturatingMul (max page.toNat 1 - 1) (max perPage.toNat 1)) = true := by
  have takesI64 := database.takesI64
  simp only [InRange, QueryDatabase.takes, decide_eq_true_eq] at inRange ⊢
  refine ⟨inRange.1, ?_⟩
  by_cases isBounded : page.toNat ≤ bound.toNat
  · have fewer : (max page.toNat 1 - 1) * max perPage.toNat 1 ≤
        (max bound.toNat 1 - 1) * max perPage.toNat 1 :=
      Nat.mul_le_mul_right _ (by omega)
    refine Nat.le_trans ?_ inRange.2
    unfold saturatingMul
    omega
  · have isWithin : max page.toNat 1 - 1 < divCeil rows.length (max perPage.toNat 1) := by
      unfold reach at isAsked
      omega
    have before := mul_lt_of_lt_divCeil isWithin
    unfold saturatingMul
    omega

theorem partitions_of_count (isResolved : builder.resolved backend = .ok resolved)
    (isResult : (resolved.withWindow none none).fetchResolved backend database = .ok rows)
    (counted : database.count resolved = .ok rows.length) (isNonempty : rows ≠ [])
    (inRange : InRange database perPage bound) :
    Partitions rows perPage bound
      (fun page => paginate backend database builder page perPage)
      (pageOf rows rows.length perPage) := by
  have small : rows.length < 2 ^ 63 := by
    rw [(of_fetchResolved isResult).1]
    exact database.countable resolved
  have isCounted : rows.length ≤ u64Max := by
    unfold u64Max
    omega
  have isTotal : scalarCount rows.length = rows.length := if_pos isCounted
  refine partitions_pageOf isCounted isNonempty fun page isAsked => ?_
  rw [paginate_eq isResolved isResult counted, isTotal,
    if_pos (takes_of_inRange small inRange isAsked)]

theorem count_of_partitions {pages : UInt64 → Paginator Row}
    (isResolved : builder.resolved backend = .ok resolved)
    (isResult : (resolved.withWindow none none).fetchResolved backend database = .ok rows)
    (isPartition : Partitions rows perPage bound
      (fun page => paginate backend database builder page perPage) pages) :
    database.count resolved = .ok rows.length ∧ rows ≠ [] ∧ InRange database perPage bound := by
  have returned := isPartition.returned 0 (Nat.zero_le _)
  have agrees := isPartition.agrees 0
  cases counted : database.count resolved with
  | error failure =>
    simp only [paginate, isResolved, counted] at returned
    cases returned
  | ok count =>
    have atBound := isPartition.returned bound (Nat.le_max_left _ _)
    rw [paginate_eq isResolved isResult counted] at atBound returned
    have inRange : InRange database perPage bound := by
      by_contra refused
      rw [if_neg refused] at atBound
      cases atBound
    have isPage : pageOf rows (scalarCount count) perPage 0 = pages 0 := by
      split at returned
      next => exact Except.ok.inj (Option.some.inj returned)
      next => cases returned
    rw [← isPage] at agrees
    have isNonempty : rows ≠ [] := by
      rintro rfl
      have isLast := agrees.isLast
      rw [agrees.isLastPage] at isLast
      have noPages : divCeil ([] : List Row).length (max perPage.toNat 1) = 0 :=
        (divCeil_eq_zero_iff (Nat.le_max_right _ _)).mpr rfl
      have noTotal : scalarCount count = 0 := agrees.isTotal
      rw [noPages] at isLast
      simp only [pageOf, noTotal] at isLast
      rw [show divCeil 0 (max perPage.toNat 1) = 0 from noPages] at isLast
      exact absurd isLast (by decide +kernel)
    refine ⟨?_, isNonempty, inRange⟩
    have isTotal : scalarCount count = rows.length := agrees.isTotal
    have someRows := List.length_pos_iff.mpr isNonempty
    unfold scalarCount at isTotal
    split at isTotal
    next => rw [isTotal]
    next => omega

end Rustasea.Orm.Pagination
