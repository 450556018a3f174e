import Payable.Foundation.Keyset
import Payable.Storage.PaymentRepository
import Mathlib.Data.Prod.Lex

namespace Payable.Storage
open Domain Tables

-- One call of the repository.
inductive Operation where
  | findById (id : String)
  | findByProviderId (provider providerPaymentId : String)
  | listByCustomer (customerId : String) (options : ListOptions)
  | list (options : ListOptions)
  | page (query : PaymentListQuery)
  | update (id : String) (patch : PaymentPatch)
  | updateStatusIfUnchanged (id : String) (expected : PaymentStatus) (patch : PaymentPatch)
  | updateRefundedAmountIfUnchanged (id : String) (expected : Int) (patch : RefundedAmountPatch)

inductive Answer where
  | found (payment : Except RepositoryError (Option Payment))
  | listed (payments : Except RepositoryError (List Payment))
  | paged (result : Except RepositoryError PaymentListResult)
  | updated (payment : Except RepositoryError Payment)
  | changed (count : Except RepositoryError Bool)

variable (backend : Backend) (now : Int)

def perform (tenantId : Option TenantId) (rows : Rows) : Operation → Answer × Rows
  | .findById id => (.found (findById backend id tenantId rows),rows)
  | .findByProviderId provider providerPaymentId => (.found (findByProviderId backend provider providerPaymentId tenantId rows),rows)
  | .listByCustomer customerId options => (.listed (listByCustomer backend customerId tenantId options rows),rows)
  | .list options => (.listed (list backend tenantId options rows),rows)
  | .page query => (.paged (page backend query tenantId rows),rows)
  | .update id patch =>
    let (payment,updated) := update backend now id patch tenantId rows
    (.updated payment,updated)
  | .updateStatusIfUnchanged id expected patch =>
    let (count,updated) := updateStatusIfUnchanged now id expected patch tenantId rows
    (.changed count,updated)
  | .updateRefundedAmountIfUnchanged id expected patch =>
    let (count,updated) := updateRefundedAmountIfUnchanged now id expected patch tenantId rows
    (.changed count,updated)

-- Two tables with the same rows of one tenant.
def Agree (tenantId : Option TenantId) (a b : Rows) : Prop := ∀ row, row.tenantId = tenantId → (row ∈ a ↔ row ∈ b)

-- Every row of another tenant is as it was.
def Untouched (tenantId : Option TenantId) (rows rows' : Rows) : Prop :=
  List.Forall₂ (fun row row' => row.tenantId = tenantId ∨ row' = row) rows rows'

-- A call on behalf of one tenant, whatever it answers.
def IsolatedCall (tenantId : Option TenantId) (call : Rows → α × Rows) : Prop :=
  ∀ a b : Store, Agree tenantId a.rows b.rows → (call a.rows).1 = (call b.rows).1 ∧ Untouched tenantId a.rows (call a.rows).2

def Isolated (tenantId : Option TenantId) (operation : Operation) : Prop :=
  IsolatedCall tenantId fun rows => perform backend now tenantId rows operation

-- A patch that can give a payment the provider id of another one.
def Renames (patch : PaymentPatch) : Prop :=
  ((∃ provider, patch.provider = some (some provider)) ∨ ∃ id, patch.providerPaymentId = some (some id)) ∧
    patch.provider ≠ some none ∧ patch.providerPaymentId ≠ some none

-- page, a list of no rows, and for a named tenant everything that does not rename.
def Sealed (tenantId : Option TenantId) : Operation → Prop
  | .page _ => True
  | .listByCustomer _ options | .list options => tenantId ≠ none ∨ listLimit options.limit = 0
  | .update _ patch | .updateStatusIfUnchanged _ _ patch => tenantId ≠ none ∧ ¬ Renames patch
  | .findById _ | .findByProviderId _ _ | .updateRefundedAmountIfUnchanged _ _ _ => tenantId ≠ none

section reads

variable {backend now} {tenantId : Option TenantId} {a b rows : Rows} {selects : Payment → Bool}

def Selects (tenantId : Option TenantId) (selects : Payment → Bool) : Prop := ∀ row, selects row = true → row.tenantId = tenantId

theorem untouched_refl (tenantId : Option TenantId) (rows : Rows) : Untouched tenantId rows rows := by
  induction rows with
  | nil => exact .nil
  | cons _ _ ih => exact .cons (.inr rfl) ih

theorem named_clause (tenant : TenantId) (row : Payment) : tenantClause (some tenant) row = true → row.tenantId = some tenant := by
  intro its
  simpa [tenantClause] using its

theorem named_scope (id : String) (tenant : TenantId) : Selects (some tenant) (scopedWhere id (some tenant)) := by
  intro row its
  exact named_clause tenant row (Bool.and_eq_true_iff.mp its).2

theorem find_agree (own : Selects tenantId selects) (one : ∀ r ∈ b, ∀ r' ∈ b, selects r = true → selects r' = true → r = r')
    (agree : Agree tenantId a b) : a.find? selects = b.find? selects := by
  cases found : a.find? selects with
  | none =>
      refine (List.find?_eq_none.mpr fun row member its => ?_).symm
      exact List.find?_eq_none.mp found row ((agree row (own row its)).mpr member) its
  | some row =>
      have its := List.find?_some found
      have there := (agree row (own row its)).mp (List.mem_of_find?_eq_some found)
      cases found' : b.find? selects with
      | none => exact absurd its (by simpa using List.find?_eq_none.mp found' row there)
      | some row' => rw [one row there row' (List.mem_of_find?_eq_some found') its (List.find?_some found')]

theorem scoped_one (keyed : Keyed Payment.id rows) (id : String) (tenantId : Option TenantId) :
    ∀ r ∈ rows, ∀ r' ∈ rows, scopedWhere id tenantId r = true → scopedWhere id tenantId r' = true → r = r' := by
  intro r member r' member' its its'
  have same : r.id = id := of_decide_eq_true (Bool.and_eq_true_iff.mp its).1
  have same' : r'.id = id := of_decide_eq_true (Bool.and_eq_true_iff.mp its').1
  exact keyed_unique keyed member member' (same.trans same'.symm)

theorem providers_one (apart : ProvidersApart rows) {row row' : Payment} (member : row ∈ rows) (member' : row' ∈ rows)
    (its : providerKey row = some pair) (its' : providerKey row' = some pair) : row = row' := by
  induction rows with
  | nil => cases member
  | cons first rest ih =>
      have tail : ProvidersApart rest := by
        unfold ProvidersApart at apart ⊢
        rw [List.filterMap_cons] at apart
        split at apart
        · exact apart
        · exact (List.nodup_cons.mp apart).2
      have fresh : providerKey first = some pair → ∀ other ∈ rest, providerKey other ≠ some pair := by
        intro here other inside same
        unfold ProvidersApart at apart
        rw [List.filterMap_cons_some here] at apart
        exact (List.nodup_cons.mp apart).1 (List.mem_filterMap.mpr ⟨other,inside,same⟩)
      rcases List.mem_cons.mp member with rfl | inside <;> rcases List.mem_cons.mp member' with rfl | inside'
      · rfl
      · exact absurd its' (fresh its row' inside')
      · exact absurd its (fresh its' row inside)
      · exact ih tail inside inside'

def newestKey (row : Payment) : (Int ×ₗ String)ᵒᵈ := OrderDual.toDual (toLex (row.createdAt,row.id))

theorem newestFirst_order : newestFirst = Keyset.inOrder newestKey := by
  funext a b
  rw [Bool.eq_iff_iff]
  simp only [newestFirst,Keyset.inOrder,newestKey,OrderDual.toDual_le_toDual,Prod.Lex.toLex_le_toLex,Bool.or_eq_true,Bool.and_eq_true,
    decide_eq_true_eq]

theorem newestKey_keyed (keyed : Keyed Payment.id rows) : (rows.map newestKey).Nodup := by
  have lifted : rows.map Payment.id = (rows.map newestKey).map fun k => (ofLex (OrderDual.ofDual k)).2 := by
    rw [List.map_map]
    rfl
  unfold Keyed at keyed
  rw [lifted] at keyed
  exact keyed.of_map _

theorem sorted_agree (keyed : Keyed Payment.id a) (keyed' : Keyed Payment.id b) (own : Selects tenantId selects)
    (agree : Agree tenantId a b) : (a.filter selects).mergeSort newestFirst = (b.filter selects).mergeSort newestFirst := by
  have kept : ∀ {rows : Rows}, Keyed Payment.id rows → ((rows.filter selects).map newestKey).Nodup := by
    intro rows keyed
    exact (List.filter_sublist.map newestKey).nodup (newestKey_keyed keyed)
  rw [newestFirst_order]
  refine Keyset.ordered_agree newestKey (kept keyed) (kept keyed') fun row => ?_
  rw [List.mem_filter,List.mem_filter]
  exact ⟨fun ⟨member,its⟩ => ⟨(agree row (own row its)).mp member,its⟩,fun ⟨member,its⟩ => ⟨(agree row (own row its)).mpr member,its⟩⟩

theorem tenantKey_injective {t t' : Option TenantId} (same : tenantKey t = tenantKey t') : t = t' := by
  cases t with
  | none =>
      cases t' with
      | none => rfl
      | some tenant => exact absurd same.symm tenant.named
  | some tenant =>
      cases t' with
      | none => exact absurd same tenant.named
      | some tenant' =>
          cases tenant
          cases tenant'
          cases same
          rfl

theorem untouched_update {change : Payment → Payment} (own : Selects tenantId selects) (rows : Rows) :
    Untouched tenantId rows (updateWhere selects change rows) := by
  induction rows with
  | nil => exact .nil
  | cons row rest ih =>
      refine .cons ?_ ih
      dsimp only
      split
      · rename_i its; exact .inl (own row its)
      · exact .inr rfl

end reads

section writes

variable {backend : Backend} {now : Int} {tenantId : Option TenantId} {a b rows : Rows} {selects : Payment → Bool} {patch : PaymentPatch}

-- A patch that does not rename keeps the provider id of a payment or takes it away.
theorem kept_key (calm : ¬ Renames patch) (now : Int) (row : Payment) :
    providerKey (patch.toRow now row) = providerKey row ∨ providerKey (patch.toRow now row) = none := by
  cases provider : patch.provider with
  | none =>
      cases id : patch.providerPaymentId with
      | none => exact .inl (by simp [providerKey,PaymentPatch.toRow,provider,id])
      | some value =>
          cases value with
          | none =>
              refine .inr ?_
              simp only [providerKey,PaymentPatch.toRow,id,Option.getD_some]
              split <;> simp_all
          | some value => exact absurd ⟨.inr ⟨value,id⟩,by simp [provider],by simp [id]⟩ calm
  | some value =>
      cases value with
      | none =>
          refine .inr ?_
          simp only [providerKey,PaymentPatch.toRow,provider,Option.getD_some]
      | some value =>
          by_cases cleared : patch.providerPaymentId = some none
          · refine .inr ?_
            simp only [providerKey,PaymentPatch.toRow,cleared,Option.getD_some]
            split <;> simp_all
          · exact absurd ⟨.inl ⟨value,provider⟩,by simp [provider],cleared⟩ calm

theorem apart_update {change : Payment → Payment} (apart : ProvidersApart rows)
    (kept : ∀ row, providerKey (change row) = providerKey row ∨ providerKey (change row) = none) :
    ProvidersApart (updateWhere selects change rows) := by
  have fewer : ((updateWhere selects change rows).filterMap providerKey).Sublist (rows.filterMap providerKey) := by
    clear apart
    induction rows with
    | nil => exact .slnil
    | cons row rest ih =>
        have own : providerKey (if selects row then change row else row) = providerKey row ∨
            providerKey (if selects row then change row else row) = none := by
          split
          · exact kept row
          · exact .inl rfl
        show (((if selects row then change row else row) :: updateWhere selects change rest).filterMap providerKey).Sublist _
        rw [List.filterMap_cons,List.filterMap_cons]
        rcases own with same | gone
        · rw [same]
          cases providerKey row with
          | none => exact ih
          | some pair => exact ih.cons_cons pair
        · rw [gone]
          cases providerKey row with
          | none => exact ih
          | some pair => exact ih.cons pair
  exact fewer.nodup apart

theorem updateRows_calm (calm : ¬ Renames patch) (apart : ProvidersApart rows) :
    updateRows selects (patch.toRow now) rows = some (updateWhere selects (patch.toRow now) rows) :=
  if_pos (apart_update apart (kept_key calm now))

theorem update_isolated (backend : Backend) (now : Int) (calm : ¬ Renames patch) (id : String) (tenant : TenantId) :
    IsolatedCall (some tenant) (update backend now id patch (some tenant)) := by
  intro a b agree
  have own := named_scope id tenant
  have same := find_agree own (scoped_one b.keyed id (some tenant)) agree
  simp only [update,updateRows_calm calm a.apart,updateRows_calm calm b.apart,same]
  refine ⟨?_,?_⟩
  · cases b.rows.find? (scopedWhere id (some tenant)) <;> rfl
  · cases b.rows.find? (scopedWhere id (some tenant)) <;> exact untouched_update own a.rows

theorem any_agree (own : Selects tenantId selects) (agree : Agree tenantId a b) : a.any selects = b.any selects := by
  rw [Bool.eq_iff_iff,List.any_eq_true,List.any_eq_true]
  constructor
  · rintro ⟨row,member,its⟩
    exact ⟨row,(agree row (own row its)).mp member,its⟩
  · rintro ⟨row,member,its⟩
    exact ⟨row,(agree row (own row its)).mpr member,its⟩

theorem updateIfUnchanged_isolated (calm : ¬ Renames patch) (own : Selects tenantId selects) :
    IsolatedCall tenantId (updateIfUnchanged now selects patch) := by
  intro a b agree
  simp only [updateIfUnchanged,updateRows_calm calm a.apart,updateRows_calm calm b.apart,any_agree own agree]
  exact ⟨trivial,untouched_update own a.rows⟩

theorem own_and {tenant : TenantId} (id : String) (test : Payment → Bool) :
    Selects (some tenant) fun row => scopedWhere id (some tenant) row && test row :=
  fun row its => named_scope id tenant row (Bool.and_eq_true_iff.mp its).1

theorem emptyPatch_calm (refundedAmount : Option Int) (status : Option PaymentStatus) (authorizedAt : Option (Option Int)) :
    ¬ Renames {emptyPatch with refundedAmount := refundedAmount,status := status,authorizedAt := authorizedAt} := by
  rintro ⟨⟨_,its⟩ | ⟨_,its⟩,_⟩ <;> cases its

end writes

section sealed

variable {backend : Backend} {now : Int} {tenantId : Option TenantId}

theorem IsolatedCall.read {read : Rows → α} (same : ∀ a b : Store, Agree tenantId a.rows b.rows → read a.rows = read b.rows) :
    IsolatedCall tenantId fun rows => (read rows,rows) :=
  fun a b agree => ⟨same a b agree,untouched_refl tenantId a.rows⟩

theorem IsolatedCall.map {call : Rows → α × Rows} (isolated : IsolatedCall tenantId call) (answer : α → β) :
    IsolatedCall tenantId fun rows => (answer (call rows).1,(call rows).2) :=
  fun a b agree => ⟨congrArg answer (isolated a b agree).1,(isolated a b agree).2⟩

theorem findByProviderId_agree (backend : Backend) (provider providerPaymentId : String) {tenant : TenantId} {a b : Store} (agree : Agree (some tenant) a.rows b.rows) :
    findByProviderId backend provider providerPaymentId (some tenant) a.rows =
      findByProviderId backend provider providerPaymentId (some tenant) b.rows := by
  have own : Selects (some tenant) fun row =>
      row.provider = some provider && row.providerPaymentId = some providerPaymentId && tenantClause (some tenant) row :=
    fun row its => named_clause tenant row (Bool.and_eq_true_iff.mp its).2
  unfold findByProviderId firstWhere
  rw [find_agree own ?_ agree]
  · intro r member r' member' its its'
    have key : ∀ {row : Payment}, (decide (row.provider = some provider) && decide (row.providerPaymentId = some providerPaymentId) &&
        tenantClause (some tenant) row) = true → providerKey row = some (provider,providerPaymentId) := by
      intro row its
      simp only [Bool.and_eq_true,decide_eq_true_eq] at its
      simp [providerKey,its.1.1,its.1.2]
    exact providers_one b.apart member member' (key its) (key its')

theorem manyWhere_agree {selects : Payment → Bool} (own : Selects tenantId selects) (options : ListOptions) {a b : Store}
    (agree : Agree tenantId a.rows b.rows) : manyWhere backend selects options a.rows = manyWhere backend selects options b.rows := by
  unfold manyWhere
  rw [sorted_agree a.keyed b.keyed (fun row its => own row (Bool.and_eq_true_iff.mp its).1) agree]

theorem page_agree (query : PaymentListQuery) {a b : Store} (agree : Agree tenantId a.rows b.rows) :
    page backend query tenantId a.rows = page backend query tenantId b.rows := by
  have own : Selects tenantId fun row => decide (tenantKey row.tenantId = tenantKey tenantId) && matchesQuery backend query row &&
      query.before.all (isBefore · row) := by
    intro row its
    simp only [Bool.and_eq_true,decide_eq_true_eq] at its
    exact tenantKey_injective its.1.1
  unfold page pageRows
  rw [sorted_agree a.keyed b.keyed own agree]

theorem listed_none {selects : Payment → Bool} {options : ListOptions} (silent : listLimit options.limit = 0) (rows : Rows) :
    manyWhere backend selects options rows = .ok [] := by
  simp [manyWhere,silent]
  rfl

theorem sealed_isolated (operation : Operation) (its : Sealed tenantId operation) : Isolated backend now tenantId operation := by
  unfold Isolated
  cases operation with
  | findById id =>
      obtain ⟨tenant,rfl⟩ := Option.ne_none_iff_exists'.mp its
      refine .read fun a b agree => ?_
      simp only [findById,firstWhere,find_agree (named_scope id tenant) (scoped_one b.keyed id _) agree]
  | findByProviderId provider providerPaymentId =>
      obtain ⟨tenant,rfl⟩ := Option.ne_none_iff_exists'.mp its
      exact .read fun a b agree => congrArg _ (findByProviderId_agree backend provider providerPaymentId agree)
  | listByCustomer customerId options =>
      refine .read fun a b agree => congrArg _ ?_
      unfold listByCustomer
      rcases its with named | silent
      · obtain ⟨tenant,rfl⟩ := Option.ne_none_iff_exists'.mp named
        exact manyWhere_agree (fun row its => named_clause tenant row (Bool.and_eq_true_iff.mp its).2) options agree
      · rw [listed_none silent,listed_none silent]
  | list options =>
      refine .read fun a b agree => congrArg _ ?_
      unfold list
      rcases its with named | silent
      · obtain ⟨tenant,rfl⟩ := Option.ne_none_iff_exists'.mp named
        exact manyWhere_agree (named_clause tenant) options agree
      · rw [listed_none silent,listed_none silent]
  | page query => exact .read fun a b agree => congrArg _ (page_agree query agree)
  | update id patch =>
      obtain ⟨tenant,rfl⟩ := Option.ne_none_iff_exists'.mp its.1
      exact (update_isolated backend now its.2 id tenant).map Answer.updated
  | updateStatusIfUnchanged id expected patch =>
      obtain ⟨tenant,rfl⟩ := Option.ne_none_iff_exists'.mp its.1
      exact (updateIfUnchanged_isolated its.2 (own_and id _)).map Answer.changed
  | updateRefundedAmountIfUnchanged id expected patch =>
      obtain ⟨tenant,rfl⟩ := Option.ne_none_iff_exists'.mp its
      exact (updateIfUnchanged_isolated (emptyPatch_calm _ _ none) (own_and id _)).map Answer.changed

end sealed

section leaks

variable {backend : Backend} {now : Int} {id : String}

def acme : TenantId := ⟨"acme",by decide⟩

def sample (id : String) (tenantId : Option TenantId) : Payment :=
  ⟨id,tenantId,none,none,none,.pending,"",0,0,0,none,none,none,none,none,none,none,none,0,0⟩

def single (row : Payment) : Store := by
  refine ⟨[row],List.nodup_singleton _,?_⟩
  unfold ProvidersApart
  rw [List.filterMap_cons]
  split
  · exact List.nodup_nil
  · exact List.nodup_singleton _

def emptyStore : Store := ⟨[],List.nodup_nil,List.nodup_nil⟩

-- The null tenant has no row in either table.
theorem leaked (row : Payment) (isolated : IsolatedCall none call) (foreign : row.tenantId = some acme) : (call [row]).1 = (call []).1 := by
  refine (isolated (single row) emptyStore ?_).1
  intro other its
  constructor
  · intro member
    cases List.mem_singleton.mp member
    cases its.symm.trans foreign
  · intro member
    cases member

theorem toEntity_read (backend : Backend) (row : Payment) :
    toEntity backend row ≠ .error .missingAfterWrite ∧ toEntity backend row ≠ .error .uniqueViolation := by
  unfold toEntity toMinor
  split
  · exact ⟨nofun,nofun⟩
  · cases isSafeInteger row.amount <;> cases isSafeInteger row.refundedAmount <;> cases isSafeInteger row.capturedAmount <;>
      exact ⟨nofun,nofun⟩

theorem firstWhere_leaks {selects : Payment → Bool} (its : selects row = true) :
    firstWhere backend selects [row] ≠ firstWhere backend selects [] := by
  have found : [row].find? selects = some row := by simp [its]
  simp only [firstWhere,found,List.find?_nil]
  cases toEntity backend row <;> exact nofun

def leakedAt (options : ListOptions) : Int := (options.before.map fun before => before.createdAt - 1).getD 0

theorem manyWhere_leaks {selects : Payment → Bool} {options : ListOptions} (its : selects row = true)
    (created : row.createdAt = leakedAt options) (some_ : listLimit options.limit ≠ 0) :
    manyWhere backend selects options [row] ≠ manyWhere backend selects options [] := by
  have earlier : options.before.all (isBefore · row) = true := by
    cases before : options.before with
    | none => rfl
    | some cursor => simp [isBefore,created,leakedAt,before]
  have kept : ([row].filter fun row => selects row && options.before.all (isBefore · row)) = [row] := by simp [its,earlier]
  obtain ⟨limit,more⟩ := Nat.exists_eq_succ_of_ne_zero some_
  simp only [manyWhere,kept,more,List.filter_nil,List.mergeSort_singleton,List.mergeSort_nil,List.take_succ_cons,List.take_nil]
  cases read : toEntity backend row with
  | error error =>
      simp only [List.mapM_cons,read]
      exact nofun
  | ok payment =>
      simp only [List.mapM_cons,read]
      exact nofun

theorem updateRows_single (selects : Payment → Bool) (change : Payment → Payment) (row : Payment) : ∃ updated, updateRows selects change [row] = some updated := by
  refine ⟨_,if_pos ?_⟩
  exact (single (if selects row then change row else row)).apart

theorem update_leaks (its : scopedWhere id tenantId row = true) :
    (update backend now id patch tenantId [row]).1 ≠ (update backend now id patch tenantId []).1 := by
  obtain ⟨updated,works⟩ := updateRows_single (scopedWhere id tenantId) (patch.toRow now) row
  have nothing : updateRows (scopedWhere id tenantId) (patch.toRow now) [] = some [] := rfl
  have found : [row].find? (scopedWhere id tenantId) = some row := by simp [its]
  simp only [update,works,nothing,found,List.find?_nil]
  exact (toEntity_read backend _).1

theorem updateIfUnchanged_leaks {selects : Payment → Bool} (its : selects row = true) :
    (updateIfUnchanged now selects patch [row]).1 ≠ (updateIfUnchanged now selects patch []).1 := by
  obtain ⟨updated,works⟩ := updateRows_single selects (patch.toRow now) row
  have nothing : updateRows selects (patch.toRow now) [] = some [] := rfl
  simp only [updateIfUnchanged,works,nothing]
  simp [its]

-- A payment of the tenant and one of the null tenant that has the provider id the patch gives.
def renamed (tenantId : Option TenantId) (id : String) (status : PaymentStatus) (patch : PaymentPatch) : Payment :=
  {sample id tenantId with
    status := status
    provider := if patch.provider = none then some "stripe" else none
    providerPaymentId := if patch.providerPaymentId = none then some "pay_1" else none}

def holder (id : String) (provider providerPaymentId : String) : Payment :=
  {sample (id ++ "x") none with provider := some provider,providerPaymentId := some providerPaymentId}

theorem holder_key (id provider providerPaymentId : String) :
    providerKey (holder id provider providerPaymentId) = some (provider,providerPaymentId) := rfl

theorem renamed_unkeyed (renames : Renames patch) : providerKey (renamed tenantId id status patch) = none := by
  rcases renames.1 with ⟨provider,its⟩ | ⟨other,its⟩
  · simp [providerKey,renamed,its]
  · simp only [providerKey,renamed,its]
    split <;> simp_all

theorem renamed_collides (now : Int) (tenantId : Option TenantId) (id : String) (status : PaymentStatus) (renames : Renames patch) : ∃ provider providerPaymentId,
    providerKey (patch.toRow now (renamed tenantId id status patch)) = some (provider,providerPaymentId) := by
  obtain ⟨_,provider,other⟩ := renames
  cases first : patch.provider with
  | none =>
      cases second : patch.providerPaymentId with
      | none => exact ⟨"stripe","pay_1",by simp [providerKey,PaymentPatch.toRow,renamed,first,second]⟩
      | some value =>
          cases value with
          | none => exact absurd second other
          | some value => exact ⟨"stripe",value,by simp [providerKey,PaymentPatch.toRow,renamed,first,second]⟩
  | some value =>
      cases value with
      | none => exact absurd first provider
      | some value =>
          cases second : patch.providerPaymentId with
          | none => exact ⟨value,"pay_1",by simp [providerKey,PaymentPatch.toRow,renamed,first,second]⟩
          | some value' =>
              cases value' with
              | none => exact absurd second other
              | some value' => exact ⟨value,value',by simp [providerKey,PaymentPatch.toRow,first,second]⟩

theorem longer_apart (id : String) : id ++ "x" ≠ id := by
  intro same
  have lengths := congrArg String.length same
  simp at lengths

-- The unique key refuses the patch where the other tenant's payment is there.
theorem renames_leaks (now : Int) {tenant : TenantId} {selects : Payment → Bool} (renames : Renames patch)
    (its : selects (renamed (some tenant) id status patch) = true) (names : ∀ row, selects row = true → row.id = id) :
    ∃ a b : Store, Agree (some tenant) a.rows b.rows ∧ updateRows selects (patch.toRow now) a.rows = none ∧
      b.rows = [renamed (some tenant) id status patch] := by
  obtain ⟨provider,providerPaymentId,key⟩ := renamed_collides now (some tenant) id status renames
  have free : selects (holder id provider providerPaymentId) = false := by
    by_contra chosen
    exact longer_apart id (names _ (by simpa using chosen))
  have keyed : Keyed Payment.id [renamed (some tenant) id status patch,holder id provider providerPaymentId] := by
    simp [Keyed,renamed,holder,sample,(longer_apart id).symm]
  have apart : ProvidersApart [renamed (some tenant) id status patch,holder id provider providerPaymentId] := by
    simp only [ProvidersApart,List.filterMap_cons,renamed_unkeyed renames,holder_key,List.filterMap_nil]
    exact List.nodup_singleton _
  refine ⟨⟨_,keyed,apart⟩,single (renamed (some tenant) id status patch),?_,?_,rfl⟩
  · intro row own
    show row ∈ [_,_] ↔ row ∈ [_]
    rw [List.mem_cons,List.mem_singleton,List.mem_singleton]
    refine ⟨fun member => member.resolve_right ?_,.inl⟩
    rintro rfl
    cases own
  · refine if_neg fun distinct => ?_
    simp [ProvidersApart,updateWhere,its,free,key,holder_key] at distinct

theorem update_renames {tenant : TenantId} (renames : Renames patch)
    (isolated : IsolatedCall (some tenant) (update backend now id patch (some tenant))) : False := by
  have its : scopedWhere id (some tenant) (renamed (some tenant) id .pending patch) = true := by
    simp [scopedWhere,tenantClause,renamed,sample]
  obtain ⟨a,b,agree,refused,rows⟩ := renames_leaks now renames its
    fun row its => of_decide_eq_true (Bool.and_eq_true_iff.mp its).1
  obtain ⟨updated,works⟩ := updateRows_single (scopedWhere id (some tenant)) (patch.toRow now) (renamed (some tenant) id .pending patch)
  have same := (isolated a b agree).1
  have found : [renamed (some tenant) id .pending patch].find? (scopedWhere id (some tenant)) = some _ := List.find?_cons_of_pos its
  simp only [update,refused,rows,works,found] at same
  exact (toEntity_read backend _).2 same.symm

theorem updateIfUnchanged_renames {tenant : TenantId} {selects : Payment → Bool} (renames : Renames patch)
    (its : selects (renamed (some tenant) id status patch) = true) (names : ∀ row, selects row = true → row.id = id)
    (isolated : IsolatedCall (some tenant) (updateIfUnchanged now selects patch)) : False := by
  obtain ⟨a,b,agree,refused,rows⟩ := renames_leaks now renames its names
  obtain ⟨updated,works⟩ := updateRows_single selects (patch.toRow now) (renamed (some tenant) id status patch)
  have same := (isolated a b agree).1
  simp only [updateIfUnchanged,refused,rows,works] at same
  cases same

theorem IsolatedCall.unmap {call : Rows → α × Rows} {answer : α → β} (distinct : Function.Injective answer)
    (isolated : IsolatedCall tenantId fun rows => (answer (call rows).1,(call rows).2)) : IsolatedCall tenantId call :=
  fun a b agree => ⟨distinct (isolated a b agree).1,(isolated a b agree).2⟩

def foreign (id : String) : Payment := sample id (some acme)

theorem isolated_sealed {tenantId : Option TenantId} (operation : Operation) (isolated : Isolated backend now tenantId operation) :
    Sealed tenantId operation := by
  unfold Isolated at isolated
  cases operation with
  | findById id =>
      rintro rfl
      have same := Answer.found.inj (leaked (foreign id) isolated rfl)
      exact firstWhere_leaks (by simp [scopedWhere,tenantClause,foreign,sample]) same
  | findByProviderId provider providerPaymentId =>
      rintro rfl
      have same := Answer.found.inj
        (leaked {foreign "" with provider := some provider,providerPaymentId := some providerPaymentId} isolated rfl)
      exact firstWhere_leaks (by simp [tenantClause]) same
  | listByCustomer customerId options =>
      by_contra open_
      simp only [Sealed,not_or,Classical.not_not] at open_
      obtain ⟨rfl,some_⟩ := open_
      have same := Answer.listed.inj
        (leaked {foreign "" with customerId := some customerId,createdAt := leakedAt options} isolated rfl)
      exact manyWhere_leaks (by simp [tenantClause]) rfl some_ same
  | list options =>
      by_contra open_
      simp only [Sealed,not_or,Classical.not_not] at open_
      obtain ⟨rfl,some_⟩ := open_
      have same := Answer.listed.inj (leaked {foreign "" with createdAt := leakedAt options} isolated rfl)
      exact manyWhere_leaks (by simp [tenantClause]) rfl some_ same
  | page query => trivial
  | update id patch =>
      have plain := IsolatedCall.unmap (fun _ _ same => Answer.updated.inj same) isolated
      cases tenantId with
      | none => exact absurd (leaked (foreign id) plain rfl) (update_leaks (by simp [scopedWhere,tenantClause,foreign,sample]))
      | some tenant => exact ⟨Option.some_ne_none tenant,fun renames => update_renames renames plain⟩
  | updateStatusIfUnchanged id expected patch =>
      have plain := IsolatedCall.unmap (fun _ _ same => Answer.changed.inj same) isolated
      cases tenantId with
      | none =>
          refine absurd (leaked {foreign id with status := expected} plain rfl) (updateIfUnchanged_leaks ?_)
          simp [scopedWhere,tenantClause,foreign,sample]
      | some tenant =>
          refine ⟨Option.some_ne_none tenant,fun renames => ?_⟩
          have its : (scopedWhere id (some tenant) (renamed (some tenant) id expected patch) &&
              (renamed (some tenant) id expected patch).status = expected) = true := by
            simp [scopedWhere,tenantClause,renamed,sample]
          exact updateIfUnchanged_renames renames its
            (fun row its => of_decide_eq_true (Bool.and_eq_true_iff.mp (Bool.and_eq_true_iff.mp its).1).1) plain
  | updateRefundedAmountIfUnchanged id expected patch =>
      have plain := IsolatedCall.unmap (fun _ _ same => Answer.changed.inj same) isolated
      rintro rfl
      refine absurd (leaked {foreign id with refundedAmount := expected} plain rfl) (updateIfUnchanged_leaks ?_)
      simp [scopedWhere,tenantClause,foreign,sample]

end leaks

section webhook

variable {backend : Backend} {now occurredAt : Int} {providerName : String}

theorem webhook_named (dto : Option PaymentReconciliation) (tenant : TenantId) :
    IsolatedCall (some tenant) (reconcileWebhookPayment backend now providerName dto occurredAt (some tenant)) := by
  intro a b agree
  cases dto with
  | none => exact ⟨rfl,untouched_refl _ _⟩
  | some dto =>
      have same := findByProviderId_agree backend providerName dto.providerPaymentId agree
      simp only [reconcileWebhookPayment,same]
      cases findByProviderId backend providerName dto.providerPaymentId (some tenant) b.rows with
      | error => exact ⟨rfl,untouched_refl _ _⟩
      | ok found =>
          cases found with
          | none => exact ⟨rfl,untouched_refl _ _⟩
          | some payment =>
              by_cases superseded : isSupersededAuthorization payment dto = true
              · simp only [if_pos superseded]
                exact ⟨trivial,untouched_refl _ _⟩
              · simp only [if_neg superseded]
                cases payment.status.tryTransitionTo dto.status with
                | none => exact ⟨rfl,untouched_refl _ _⟩
                | some status =>
                    have calm := emptyPatch_calm none (some status)
                      (if status = .authorized ∧ payment.authorizedAt = none then some (some occurredAt) else none)
                    have isolated := update_isolated backend now calm payment.id tenant a b agree
                    exact ⟨congrArg (Except.map fun _ => ()) isolated.1,isolated.2⟩

-- A payment of another tenant that toEntity refuses.
theorem webhook_leaks {dto : PaymentReconciliation}
    (isolated : IsolatedCall none (reconcileWebhookPayment backend now providerName (some dto) occurredAt none)) : False := by
  let row : Payment := {foreign "" with
    provider := some providerName,providerPaymentId := some dto.providerPaymentId,amount := 9007199254740992}
  have refused : ∃ error, toEntity backend row = .error error := by
    cases known : backend.normalize row.currency with
    | none => exact ⟨_,by simp [toEntity,known]; rfl⟩
    | some currency => exact ⟨.unsafeAmount "amount",by simp only [toEntity,known]; rfl⟩
  obtain ⟨error,refused⟩ := refused
  have found : findByProviderId backend providerName dto.providerPaymentId none [row] = .error error := by
    have chosen : [row].find? (fun row => row.provider = some providerName && row.providerPaymentId = some dto.providerPaymentId &&
        tenantClause none row) = some row := List.find?_cons_of_pos (by simp [row,tenantClause])
    simp only [findByProviderId,firstWhere,chosen,refused]
    rfl
  have missing : findByProviderId backend providerName dto.providerPaymentId none [] = .ok none := rfl
  have same := leaked row isolated rfl
  simp only [reconcileWebhookPayment,found,missing] at same
  cases same

end webhook

-- Each call is isolated where it is sealed, and a webhook for a named tenant always.
theorem tenants_isolated_iff (backend : Backend) (now : Int) (tenantId : Option TenantId) :
    (∀ operation, Isolated backend now tenantId operation ↔ Sealed tenantId operation) ∧
      ∀ providerName dto occurredAt,
        IsolatedCall tenantId (reconcileWebhookPayment backend now providerName dto occurredAt tenantId) ↔ tenantId ≠ none ∨ dto = none := by
  refine ⟨fun operation => ⟨isolated_sealed operation,sealed_isolated operation⟩,fun providerName dto occurredAt => ⟨?_,?_⟩⟩
  · intro isolated
    by_contra open_
    obtain ⟨null,some_⟩ := not_or.mp open_
    cases Classical.not_not.mp null
    obtain ⟨dto,rfl⟩ := Option.ne_none_iff_exists'.mp some_
    exact webhook_leaks isolated
  · rintro (named | rfl)
    · obtain ⟨tenant,rfl⟩ := Option.ne_none_iff_exists'.mp named
      exact webhook_named dto tenant
    · exact fun a b _ => ⟨rfl,untouched_refl _ _⟩

def plainBackend : Backend := ⟨fun text => text,fun text => text,some⟩

def acmePayment : Payment :=
  {foreign "p1" with provider := some "stripe",providerPaymentId := some "pay_1",currency := "EUR",amount := 1000}

-- The null tenant reads a payment of acme.
theorem null_tenant_reads : ¬ ∀ tenantId operation, Isolated plainBackend 0 tenantId operation := by
  intro isolated
  have same := Answer.found.inj (leaked acmePayment (isolated none (.findById "p1")) rfl)
  have reads : findById plainBackend "p1" none [acmePayment] = .ok (some acmePayment) := by rfl
  have missing : findById plainBackend "p1" none [] = .ok none := rfl
  rw [reads,missing] at same
  cases same

end Payable.Storage
