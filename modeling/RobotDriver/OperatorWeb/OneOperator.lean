import Mathlib.Algebra.Order.Field.Rat
import RobotDriver.Lib.LabelledRun
import RobotDriver.OperatorWeb.Leases

/-!
# One operator across the pages

`Operators.may_acquire` reads the leases of the other pages and the page then acquires its own
lease; any step may fall between the two. `requests` holds the calls between the two steps,
`session` the login session each connection was opened with and `takenAt` the step at which a page
was taken.
-/

namespace RobotDriver.OperatorWeb

inductive Page
  | chassis
  | arm
  | head
  deriving DecidableEq, Repr

/-- The pages in the order in which they are registered. -/
def pages : List Page := [.arm, .head, .chassis]

theorem mem_pages (page : Page) : page ∈ pages := by
  cases page <;> decide

/-- A call that passed its check and has not acquired yet. -/
structure Request (C : Type*) where
  page : Page
  connection : C
  checkedAt : ℕ
  deriving DecidableEq

structure PagesState (C L K : Type*) where
  loginOf : C → Option L := fun _ => none
  arbiter : DriveArbiter C K := {}
  arm : ArmLease C K := {}
  head : HeadConsole C := {}
  now : K
  session : C → Option L := fun _ => none
  requests : List (Request C) := []
  steps : ℕ := 0
  takenAt : Page → ℕ := fun _ => 0

inductive PagesEvent (C L K : Type*)
  | advance (now : K)
  | connect (connection : C) (login : L)
  | disconnect (connection : C)
  | mayAcquire (page : Page) (connection : C)
  | acquire (request : Request C)
  | release (page : Page) (connection : C)
  | softStop
  | drive (session : C) (target : Option (K × K × K))
  | halt (session : C)
  | resetMotion
  | tick
  | touch (session : C)
  | readArmLease

namespace PagesState

variable {C L K : Type*} [DecidableEq C] [DecidableEq L] [Field K] [LinearOrder K]
  (commandTimeout : K) (s : PagesState C L K)

def holder : Page → Option C
  | .chassis => s.arbiter.holder
  | .arm => s.arm.lease
  | .head => s.head.holder

/-- Every read of the arm lease first drops an expired one. -/
def readArmLease : PagesState C L K := { s with arm := s.arm.expire s.now }

def allowed (page : Page) (connection : C) : Bool :=
  (s.loginOf connection).isSome &&
    pages.all fun other => other = page ||
      (s.holder other).all fun heldBy => s.loginOf heldBy = s.loginOf connection

def mayAcquire (page : Page) (connection : C) : PagesState C L K :=
  let read := if page = .arm then s else s.readArmLease
  if read.allowed page connection then
    { read with requests := ⟨page, connection, s.steps⟩ :: read.requests }
  else read

/-- The page is free at its own acquisition. -/
def isFree : Page → Bool
  | .arm => (s.arm.expire s.now).lease.isNone
  | page => (s.holder page).isNone

def acquirePage (page : Page) (connection : C) : PagesState C L K :=
  match page with
  | .chassis => { s with arbiter := s.arbiter.acquire connection }
  | .arm => { s with arm := s.arm.acquire connection s.now }
  | .head => { s with head := s.head.acquire connection }

def acquire (request : Request C) : PagesState C L K :=
  if request ∈ s.requests then
    { s.acquirePage request.page request.connection with
      requests := s.requests.erase request
      takenAt :=
        if s.isFree request.page then Function.update s.takenAt request.page s.steps
        else s.takenAt }
  else s

def releasePage (page : Page) (connection : C) : PagesState C L K :=
  match page with
  | .chassis => { s with arbiter := s.arbiter.release connection }
  | .arm => { s with arm := s.arm.release connection }
  | .head => { s with head := s.head.release connection }

/-- Connection names are never used twice. -/
def connect (connection : C) (login : L) : PagesState C L K :=
  if s.session connection = none then
    { s with
      loginOf := Function.update s.loginOf connection (some login)
      session := Function.update s.session connection (some login) }
  else s

def handle : PagesEvent C L K → PagesState C L K
  | .advance now => if s.now ≤ now then { s with now := now } else s
  | .connect connection login => s.connect connection login
  | .disconnect connection => { s with loginOf := Function.update s.loginOf connection none }
  | .mayAcquire page connection => s.mayAcquire page connection
  | .acquire request => s.acquire request
  | .release page connection => s.releasePage page connection
  | .softStop => { s with arbiter := s.arbiter.softStop }
  | .drive session target => { s with arbiter := s.arbiter.drive session target s.now }
  | .halt session => { s with arbiter := s.arbiter.halt session }
  | .resetMotion => { s with arbiter := s.arbiter.resetMotion }
  | .tick => { s with arbiter := s.arbiter.tick commandTimeout s.now }
  | .touch session => { s with arm := s.arm.touch session s.now }
  | .readArmLease => s.readArmLease

def step (event : PagesEvent C L K) : PagesState C L K :=
  { s.handle commandTimeout event with steps := s.steps + 1 }

end PagesState

end RobotDriver.OperatorWeb

/-!
# When one operator holds the pages

A page that was already held at the check of a request is held by the same login session. The rule
is therefore broken exactly by a request that takes a free page after a connection of another login
session has taken another page since the check and still holds it.
-/

namespace RobotDriver.OperatorWeb

open LabelledRun

variable {C L K : Type*}

namespace PagesState

variable {s s' : PagesState C L K}

/-- Leases on two pages belong to connections of one login session. -/
def OneOperator (s : PagesState C L K) : Prop :=
  ∀ page other connection heldBy, page ≠ other → s.holder page = some connection →
    s.holder other = some heldBy → s.session connection = s.session heldBy

/-- Since the check a connection of another login session has taken another page it still holds. -/
def Overtaken (s : PagesState C L K) (request : Request C) : Prop :=
  ∃ other heldBy, other ≠ request.page ∧ s.holder other = some heldBy ∧
    request.checkedAt < s.takenAt other ∧ s.session heldBy ≠ s.session request.connection

def TakesOvertaken [DecidableEq C] [Field K] [LinearOrder K] (s : PagesState C L K) :
    PagesEvent C L K → Prop
  | .acquire request =>
    request ∈ s.requests ∧ s.isFree request.page = true ∧ s.Overtaken request
  | _ => False

/-- Leases end but do not begin, and nothing else that the rule reads changes. -/
structure Fades (s s' : PagesState C L K) : Prop where
  holder : ∀ page connection, s'.holder page = some connection → s.holder page = some connection
  loginOf : ∀ connection login, s'.loginOf connection = some login →
    s.loginOf connection = some login
  session : s'.session = s.session
  requests : s'.requests = s.requests
  takenAt : s'.takenAt = s.takenAt
  steps : s'.steps = s.steps

structure Checked (s : PagesState C L K) (request : Request C) : Prop where
  past : request.checkedAt < s.steps
  known : (s.session request.connection).isSome = true
  agrees : ∀ other heldBy, other ≠ request.page → s.holder other = some heldBy →
    s.takenAt other ≤ request.checkedAt → s.session heldBy = s.session request.connection

structure Ordered (s : PagesState C L K) : Prop where
  one : s.OneOperator
  login : ∀ connection login, s.loginOf connection = some login →
    s.session connection = some login
  known : ∀ page connection, s.holder page = some connection →
    (s.session connection).isSome = true
  requests : ∀ request ∈ s.requests, s.Checked request

theorem Ordered.initial (now : K) : ({ now := now } : PagesState C L K).Ordered where
  one page _ _ _ _ h := by cases page <;> cases h
  login _ _ h := nomatch h
  known page _ h := by cases page <;> cases h
  requests _ h := nomatch h

theorem Fades.ordered (h : s.Fades s') (hs : s.Ordered) : s'.Ordered := by
  refine ⟨fun page other connection heldBy hne hpage hother => ?_, fun connection login hlogin => ?_,
    fun page connection hpage => ?_, fun request hmem => ?_⟩
  · rw [h.session]
    exact hs.one page other connection heldBy hne (h.holder _ _ hpage) (h.holder _ _ hother)
  · rw [h.session]
    exact hs.login connection login (h.loginOf _ _ hlogin)
  · rw [h.session]
    exact hs.known page connection (h.holder _ _ hpage)
  · rw [h.requests] at hmem
    obtain ⟨hpast, hknown, hagrees⟩ := hs.requests request hmem
    refine ⟨by rwa [h.steps], by rwa [h.session], fun other heldBy hne hother htaken => ?_⟩
    rw [h.session]
    rw [h.takenAt] at htaken
    exact hagrees other heldBy hne (h.holder _ _ hother) htaken

theorem Fades.refl (s : PagesState C L K) : s.Fades s :=
  ⟨fun _ _ h => h, fun _ _ h => h, rfl, rfl, rfl, rfl⟩

theorem fades_arbiter (arbiter : DriveArbiter C K)
    (h : ∀ connection, arbiter.holder = some connection → s.arbiter.holder = some connection) :
    s.Fades { s with arbiter := arbiter } := by
  refine ⟨fun page connection hpage => ?_, fun _ _ h => h, rfl, rfl, rfl, rfl⟩
  cases page with
  | chassis => exact h connection hpage
  | arm => exact hpage
  | head => exact hpage

theorem fades_arm (arm : ArmLease C K)
    (h : ∀ connection, arm.lease = some connection → s.arm.lease = some connection) :
    s.Fades { s with arm := arm } := by
  refine ⟨fun page connection hpage => ?_, fun _ _ h => h, rfl, rfl, rfl, rfl⟩
  cases page with
  | chassis => exact hpage
  | arm => exact h connection hpage
  | head => exact hpage

theorem fades_readArmLease [Field K] [LinearOrder K] (s : PagesState C L K) : s.Fades s.readArmLease :=
  fades_arm _ fun _ => ArmLease.expire_lease

theorem fades_releasePage [DecidableEq C] (s : PagesState C L K) (page : Page)
    (connection : C) : s.Fades (s.releasePage page connection) := by
  cases page with
  | chassis => exact fades_arbiter _ fun _ => DriveArbiter.release_holder
  | arm => exact fades_arm _ fun _ => ArmLease.release_lease
  | head =>
    refine ⟨fun page connection hpage => ?_, fun _ _ h => h, rfl, rfl, rfl, rfl⟩
    cases page with
    | chassis => exact hpage
    | arm => exact hpage
    | head => exact HeadConsole.release_holder hpage

theorem fades_disconnect [DecidableEq C] (s : PagesState C L K) (connection : C) :
    s.Fades { s with loginOf := Function.update s.loginOf connection none } := by
  refine ⟨fun _ _ h => h, fun other login hlogin => ?_, rfl, rfl, rfl, rfl⟩
  by_cases hother : other = connection
  · subst hother
    simp at hlogin
  · exact (Function.update_of_ne hother none s.loginOf).symm.trans hlogin

theorem Ordered.count (hs : s.Ordered) : Ordered { s with steps := s.steps + 1 } := by
  refine ⟨hs.one, hs.login, hs.known, fun request hmem => ?_⟩
  obtain ⟨hpast, hknown, hagrees⟩ := hs.requests request hmem
  exact ⟨hpast.trans (Nat.lt_succ_self _), hknown, hagrees⟩

theorem Ordered.agrees_of_not_overtaken (hs : s.Ordered) {request : Request C}
    (hmem : request ∈ s.requests) (hnot : ¬s.Overtaken request) {other : Page} {heldBy : C}
    (hne : other ≠ request.page) (hheld : s.holder other = some heldBy) :
    s.session heldBy = s.session request.connection := by
  by_cases htaken : s.takenAt other ≤ request.checkedAt
  · exact (hs.requests request hmem).agrees other heldBy hne hheld htaken
  · by_contra hdiffer
    exact hnot ⟨other, heldBy, hne, hheld, by omega, hdiffer⟩

variable [DecidableEq C]

theorem Ordered.connect (hs : s.Ordered) (connection : C) (login : L) :
    (s.connect connection login).Ordered := by
  unfold PagesState.connect
  split
  · rename_i hfresh
    have hother : ∀ other, (s.session other).isSome = true →
        Function.update s.session connection (some login) other = s.session other := by
      intro other hother
      refine Function.update_of_ne (fun heq => ?_) _ _
      rw [heq, hfresh] at hother
      cases hother
    refine ⟨fun page other c d hne hpage hheld => ?_, fun other login' hlogin => ?_,
      fun page c hpage => ?_, fun request hmem => ?_⟩
    · change Function.update s.session connection (some login) c =
        Function.update s.session connection (some login) d
      rw [hother c (hs.known page c hpage), hother d (hs.known other d hheld)]
      exact hs.one page other c d hne hpage hheld
    · change Function.update s.loginOf connection (some login) other = some login' at hlogin
      change Function.update s.session connection (some login) other = some login'
      by_cases heq : other = connection
      · subst heq
        rwa [Function.update_self] at hlogin ⊢
      · rw [Function.update_of_ne heq] at hlogin ⊢
        exact hs.login other login' hlogin
    · change (Function.update s.session connection (some login) c).isSome = true
      rw [hother c (hs.known page c hpage)]
      exact hs.known page c hpage
    · obtain ⟨hpast, hknown, hagrees⟩ := hs.requests request hmem
      refine ⟨hpast, ?_, fun other d hne hheld htaken => ?_⟩
      · change (Function.update s.session connection (some login) request.connection).isSome = true
        rwa [hother _ hknown]
      · change Function.update s.session connection (some login) d =
          Function.update s.session connection (some login) request.connection
        rw [hother d (hs.known other d hheld), hother _ hknown]
        exact hagrees other d hne hheld htaken
  · exact hs

variable [Field K] [LinearOrder K]

theorem acquirePage_of_ne (s : PagesState C L K) {page other : Page} (hne : other ≠ page)
    (connection : C) : (s.acquirePage page connection).holder other = s.holder other := by
  cases page <;> cases other <;> first | rfl | exact absurd rfl hne

theorem acquirePage_of_free {page : Page} (hfree : s.isFree page = true) (connection : C) :
    (s.acquirePage page connection).holder page = some connection := by
  cases page with
  | chassis =>
    have hnone : s.arbiter.holder = none := Option.isNone_iff_eq_none.1 hfree
    simp [acquirePage, holder, DriveArbiter.acquire, hnone]
  | arm =>
    have hnone : (s.arm.expire s.now).lease = none := Option.isNone_iff_eq_none.1 hfree
    simp [acquirePage, holder, ArmLease.acquire, hnone]
  | head =>
    have hnone : s.head.holder = none := Option.isNone_iff_eq_none.1 hfree
    simp [acquirePage, holder, HeadConsole.acquire, hnone]

theorem holder_of_acquirePage {page : Page} {connection heldBy : C}
    (h : (s.acquirePage page connection).holder page = some heldBy) :
    s.isFree page = true ∧ heldBy = connection ∨
      s.isFree page = false ∧ s.holder page = some heldBy := by
  cases hfree : s.isFree page with
  | true =>
    rw [acquirePage_of_free hfree] at h
    exact .inl ⟨rfl, (Option.some.inj h).symm⟩
  | false =>
    refine .inr ⟨rfl, ?_⟩
    cases page with
    | chassis =>
      have hheld : s.arbiter.holder ≠ none := by
        intro hnone
        simp [isFree, holder, hnone] at hfree
      simpa [acquirePage, holder, DriveArbiter.acquire, hheld] using h
    | arm =>
      simp only [acquirePage, holder, ArmLease.acquire] at h
      have hheld : (s.arm.expire s.now).lease ≠ none := by
        intro hnone
        simp [isFree, hnone] at hfree
      split at h
      · rename_i hlease
        rw [← h]
        exact ArmLease.expire_lease (hlease.resolve_left hheld)
      · exact ArmLease.expire_lease h
    | head =>
      have hheld : s.head.holder ≠ none := by
        intro hnone
        simp [isFree, holder, hnone] at hfree
      simpa [acquirePage, holder, HeadConsole.acquire, hheld] using h

@[simp] theorem acquirePage_session (s : PagesState C L K) (page : Page) (connection : C) :
    (s.acquirePage page connection).session = s.session := by
  cases page <;> rfl

@[simp] theorem acquirePage_loginOf (s : PagesState C L K) (page : Page) (connection : C) :
    (s.acquirePage page connection).loginOf = s.loginOf := by
  cases page <;> rfl

theorem Ordered.acquire (hs : s.Ordered) {request : Request C}
    (hnot : request ∈ s.requests → s.isFree request.page = true → ¬s.Overtaken request) :
    Ordered { s.acquire request with steps := s.steps + 1 } := by
  unfold PagesState.acquire
  split
  · rename_i hmem
    have hnew : s.isFree request.page = true → ∀ other heldBy, other ≠ request.page →
        s.holder other = some heldBy → s.session heldBy = s.session request.connection :=
      fun hfree other heldBy => hs.agrees_of_not_overtaken hmem (hnot hmem hfree)
    have hheld : ∀ page heldBy,
        (s.acquirePage request.page request.connection).holder page = some heldBy →
        s.isFree request.page = true ∧ page = request.page ∧ heldBy = request.connection ∨
          s.holder page = some heldBy := by
      intro page heldBy h
      by_cases hpage : page = request.page
      · subst hpage
        rcases holder_of_acquirePage h with ⟨hfree, heq⟩ | ⟨-, hold⟩
        · exact .inl ⟨hfree, rfl, heq⟩
        · exact .inr hold
      · rw [acquirePage_of_ne s hpage] at h
        exact .inr h
    refine ⟨fun page other connection heldBy hne hpage hother => ?_,
      fun connection login hlogin => ?_, fun page connection hpage => ?_, fun other hother => ?_⟩
    · change (s.acquirePage _ _).session connection = (s.acquirePage _ _).session heldBy
      rw [acquirePage_session]
      rcases hheld page connection hpage with ⟨hfree, rfl, rfl⟩ | hpage
      · rcases hheld other heldBy hother with ⟨-, rfl, -⟩ | hother
        · exact absurd rfl hne
        · exact (hnew hfree other heldBy hne.symm hother).symm
      · rcases hheld other heldBy hother with ⟨hfree, rfl, rfl⟩ | hother
        · exact hnew hfree page connection hne hpage
        · exact hs.one page other connection heldBy hne hpage hother
    · change (s.acquirePage _ _).session connection = some login
      rw [acquirePage_session]
      exact hs.login connection login (by rwa [← acquirePage_loginOf s request.page])
    · change ((s.acquirePage _ _).session connection).isSome = true
      rw [acquirePage_session]
      rcases hheld page connection hpage with ⟨-, -, rfl⟩ | hpage
      · exact (hs.requests request hmem).known
      · exact hs.known page connection hpage
    · obtain ⟨hpast, hknown, hagrees⟩ := hs.requests other (List.mem_of_mem_erase hother)
      refine ⟨hpast.trans (Nat.lt_succ_self _), ?_, fun page heldBy hne hpage htaken => ?_⟩
      · change ((s.acquirePage _ _).session other.connection).isSome = true
        rwa [acquirePage_session]
      · change (s.acquirePage _ _).session heldBy = (s.acquirePage _ _).session other.connection
        rw [acquirePage_session]
        dsimp only at htaken
        rcases hheld page heldBy hpage with ⟨hfree, rfl, -⟩ | hpage
        · rw [if_pos hfree, Function.update_self] at htaken
          omega
        · refine hagrees page heldBy hne hpage ?_
          split at htaken
          · by_cases htakes : page = request.page
            · subst htakes
              rw [Function.update_self] at htaken
              omega
            · rwa [Function.update_of_ne htakes] at htaken
          · exact htaken
  · exact hs.count

variable [DecidableEq L]

omit [DecidableEq C] [Field K] [LinearOrder K] in
theorem loginOf_of_allowed {page other : Page} {connection heldBy : C}
    (h : s.allowed page connection = true) (hne : other ≠ page)
    (hheld : s.holder other = some heldBy) :
    ∃ login, s.loginOf heldBy = some login ∧ s.loginOf connection = some login := by
  unfold allowed at h
  rw [Bool.and_eq_true, List.all_eq_true] at h
  obtain ⟨login, hlogin⟩ := Option.isSome_iff_exists.1 h.1
  have hother := h.2 other (mem_pages other)
  rw [hheld, Bool.or_eq_true, decide_eq_true_eq] at hother
  have heq : s.loginOf heldBy = s.loginOf connection := by
    simpa using hother.resolve_left hne
  exact ⟨login, heq.trans hlogin, hlogin⟩

omit [DecidableEq C] in
theorem Ordered.mayAcquire (hs : s.Ordered) (page : Page) (connection : C) :
    Ordered { s.mayAcquire page connection with steps := s.steps + 1 } := by
  unfold PagesState.mayAcquire
  have hread : s.Fades (if page = .arm then s else s.readArmLease) := by
    split
    · exact .refl s
    · exact fades_readArmLease s
  generalize (if page = .arm then s else s.readArmLease) = read at hread
  have hordered := (hread.ordered hs).count
  rw [hread.steps] at hordered
  dsimp only
  split
  · rename_i hallowed
    refine ⟨hordered.one, hordered.login, hordered.known, fun request hmem => ?_⟩
    rcases List.mem_cons.1 hmem with rfl | hold
    · refine ⟨Nat.lt_succ_self _, ?_, fun other heldBy hne hheld _ => ?_⟩
      · obtain ⟨login, hlogin⟩ := Option.isSome_iff_exists.1 (Bool.and_eq_true _ _ ▸ hallowed).1
        rw [hordered.login connection login hlogin]
        rfl
      · obtain ⟨login, hheldBy, hlogin⟩ := loginOf_of_allowed hallowed hne hheld
        exact (hordered.login heldBy login hheldBy).trans
          (hordered.login connection login hlogin).symm
    · obtain ⟨hpast, hknown, hagrees⟩ := hordered.requests request hold
      exact ⟨hpast, hknown, hagrees⟩
  · exact hordered

theorem Ordered.step (hs : s.Ordered) (commandTimeout : K) {event : PagesEvent C L K}
    (hnot : ¬s.TakesOvertaken event) : (s.step commandTimeout event).Ordered := by
  have hfades : ∀ {s'}, s.Fades s' → Ordered { s' with steps := s.steps + 1 } := by
    intro s' h
    have hcount := (h.ordered hs).count
    rwa [h.steps] at hcount
  cases event with
  | advance now =>
    simp only [PagesState.step, handle]
    split
    · exact hfades ⟨fun _ _ h => h, fun _ _ h => h, rfl, rfl, rfl, rfl⟩
    · exact hs.count
  | connect connection login =>
    have hsteps : (s.connect connection login).steps = s.steps := by
      unfold PagesState.connect
      split <;> rfl
    have hcount := (hs.connect connection login).count
    rwa [hsteps] at hcount
  | disconnect connection => exact hfades (fades_disconnect s connection)
  | mayAcquire page connection => exact hs.mayAcquire page connection
  | acquire request =>
    exact hs.acquire fun hmem hfree hovertaken => hnot ⟨hmem, hfree, hovertaken⟩
  | release page connection => exact hfades (fades_releasePage s page connection)
  | softStop => exact hfades (fades_arbiter _ nofun)
  | drive session target =>
    exact hfades (fades_arbiter _ fun connection h => by rwa [DriveArbiter.drive_holder] at h)
  | halt session =>
    exact hfades (fades_arbiter _ fun connection h => by rwa [DriveArbiter.halt_holder] at h)
  | resetMotion => exact hfades (fades_arbiter _ fun _ h => h)
  | tick => exact hfades (fades_arbiter _ fun _ => DriveArbiter.tick_holder)
  | touch session =>
    exact hfades (fades_arm _ fun connection h => by rwa [ArmLease.touch_lease] at h)
  | readArmLease => exact hfades (fades_readArmLease s)

theorem not_oneOperator_of_takesOvertaken (commandTimeout : K) {event : PagesEvent C L K}
    (h : s.TakesOvertaken event) : ¬(s.step commandTimeout event).OneOperator := by
  cases event with
  | acquire request =>
    obtain ⟨hmem, hfree, other, heldBy, hne, hheld, -, hdiffer⟩ := h
    intro hone
    have hstep : s.step commandTimeout (.acquire request) =
        { s.acquirePage request.page request.connection with
          requests := s.requests.erase request
          takenAt := Function.update s.takenAt request.page s.steps
          steps := s.steps + 1 } := by
      simp only [PagesState.step, handle, PagesState.acquire, if_pos hmem, hfree, if_true]
    rw [hstep] at hone
    have hsame := hone request.page other request.connection heldBy hne.symm
      (acquirePage_of_free hfree request.connection)
      ((acquirePage_of_ne s hne request.connection).trans hheld)
    change (s.acquirePage _ _).session _ = (s.acquirePage _ _).session _ at hsame
    rw [acquirePage_session] at hsame
    exact hdiffer hsame.symm
  | _ => exact absurd h id

/-- In every run one operator holds the pages in all states exactly if no request takes a page after
it was overtaken. -/
theorem one_operator_iff (commandTimeout now : K) (events : List (PagesEvent C L K)) :
    (∀ before after, events = before ++ after →
        (run (step commandTimeout) ({ now := now } : PagesState C L K) before).OneOperator) ↔
      Along (step commandTimeout) (fun s event => ¬s.TakesOvertaken event)
        ({ now := now } : PagesState C L K) events := by
  constructor
  · intro hone
    rw [along_iff_split]
    rintro before event after rfl htakes
    have hnext := hone (before ++ [event]) after (by simp)
    rw [run_snoc] at hnext
    exact not_oneOperator_of_takesOvertaken commandTimeout htakes hnext
  · rintro halong before after rfl
    have hordered := invariant_run (P := fun s : PagesState C L K => s.Ordered)
      (fun s event hs hnot => hs.step commandTimeout hnot) (Ordered.initial now)
      ((along_append _ _ _).1 halong).1
    exact hordered.one

namespace Bench

/-- Two connections of two login sessions pass their checks before either of them acquires. -/
def crossed : List (PagesEvent Bool Bool ℚ) :=
  [.connect false false, .connect true true, .mayAcquire .chassis true, .mayAcquire .arm false,
    .acquire ⟨.arm, false, 3⟩, .acquire ⟨.chassis, true, 2⟩]

end Bench

/-- Two operators hold the arm and the chassis. -/
theorem two_operators_hold_pages :
    ¬∀ events : List (PagesEvent Bool Bool ℚ),
      (run (step (1 / 5 : ℚ)) { now := 0 } events).OneOperator := by
  intro h
  have hsame := h Bench.crossed .arm .chassis false true (by decide) (by decide +kernel)
    (by decide +kernel)
  revert hsame
  decide +kernel

end PagesState

end RobotDriver.OperatorWeb
