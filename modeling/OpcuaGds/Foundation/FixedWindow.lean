import Mathlib.Algebra.Order.Group.Defs
import Mathlib.Algebra.Order.Sub.Defs
import OpcuaGds.Foundation.AdmissionLog

/-! # Fixed-window counters

A gate that counts the requests since the start of a window and begins a new window with the first
request that comes when the old one is over. The first request of a window is always admitted.
-/

namespace FixedWindow

variable {Time Request : Type*}

/-- The window that is counted in. -/
structure Counter (Time : Type*) where
  windowStartedAt : Time
  count : Int

section Gate

variable [LinearOrder Time] [AddCommGroup Time] (length : Time) (limit : Int)
  (time : Request → Time)

/-- The decision on a request, and the counter after it. -/
def gate : Option (Counter Time) → Request → Bool × Option (Counter Time)
  | none, request => (true, some ⟨time request, 1⟩)
  | some counter, request =>
      if length ≤ time request - counter.windowStartedAt then (true, some ⟨time request, 1⟩)
      else (decide (counter.count + 1 ≤ limit), some { counter with count := counter.count + 1 })

/-- The starts of the windows, the last one first, with one more request. -/
def opened : List Time → Time → List Time
  | [], now => [now]
  | start :: earlier, now =>
      if length ≤ now - start then now :: start :: earlier else start :: earlier

/-- The starts of the windows of a run, the last one first. -/
def starts (requests : List Request) : List Time :=
  requests.foldl (fun windows request => opened length windows (time request)) []

/-- The request comes within the window. -/
def inWindow (start : Time) (request : Request) : Bool :=
  decide (start ≤ time request ∧ time request < start + length)

end Gate

section Runs

variable [LinearOrder Time] [AddCommGroup Time] [IsOrderedAddMonoid Time] {length : Time}
  {limit : Int} {time : Request → Time}

omit [IsOrderedAddMonoid Time] in
theorem starts_append_singleton (requests : List Request) (request : Request) :
    starts length time (requests ++ [request]) =
      opened length (starts length time requests) (time request) :=
  List.foldl_append

variable (length limit time) in
/-- What the counter says of the requests so far and of those of them that were admitted. -/
structure Counted (seen : List Request) (counter : Option (Counter Time)) (log : List Request) :
    Prop where
  current : (starts length time seen).head? = counter.map Counter.windowStartedAt
  among : ∀ start ∈ starts length time seen, ∃ request ∈ seen, time request = start
  apart : (starts length time seen).Pairwise fun later earlier => earlier + length ≤ later
  recent : ∀ start ∈ (starts length time seen).head?, ∀ request ∈ log,
    time request < start + length
  fresh : counter = none → seen = [] ∧ log = []
  counted : ∀ found, counter = some found → 1 ≤ found.count ∧
    ((log.filter (inWindow length time found.windowStartedAt)).length : Int) =
      min found.count (max limit 1)
  bounded : ∀ start ∈ starts length time seen,
    ((log.filter (inWindow length time start)).length : Int) ≤ max limit 1

omit [IsOrderedAddMonoid Time] in
theorem inWindow_iff {start : Time} {request : Request} :
    inWindow length time start request = true ↔
      start ≤ time request ∧ time request < start + length :=
  decide_eq_true_iff

omit [IsOrderedAddMonoid Time] in
/-- The admitted requests of a window with one more request. -/
theorem length_filter_logged {start : Time} {log : List Request} {request : Request} :
    ((log ++ [request]).filter (inWindow length time start)).length =
      (log.filter (inWindow length time start)).length +
        if inWindow length time start request then 1 else 0 := by
  rw [List.filter_append, List.length_append]
  congr 1
  cases inside : inWindow length time start request with
  | true => rw [List.filter_cons_of_pos inside]; rfl
  | false => rw [List.filter_cons_of_neg (by rw [inside]; exact Bool.false_ne_true)]; rfl

omit [IsOrderedAddMonoid Time] in
/-- A request after the end of a window is not counted in it. -/
theorem length_filter_of_over {start : Time} {log : List Request} {request : Request}
    (past : start + length ≤ time request) :
    ((log ++ [request]).filter (inWindow length time start)).length =
      (log.filter (inWindow length time start)).length := by
  have outside : ¬ inWindow length time start request = true :=
    fun found => (inWindow_iff.mp found).2.not_ge past
  rw [length_filter_logged, if_neg outside, Nat.add_zero]

/-- The request that opens the first window. -/
theorem counted_first (positive : 0 < length) (request : Request) :
    Counted length limit time [request] (some ⟨time request, 1⟩) [request] := by
  have inside : time request < time request + length := lt_add_of_pos_right _ positive
  have one : (([request].filter (inWindow length time (time request))).length : Int) = 1 := by
    rw [List.filter_cons_of_pos (inWindow_iff.mpr ⟨le_rfl, inside⟩)]
    rfl
  constructor
  case current => rfl
  case among =>
    intro start member
    exact ⟨request, List.mem_cons_self, (List.mem_singleton.mp member).symm⟩
  case apart => exact List.pairwise_singleton _ _
  case recent =>
    intro start isHead earlier member
    rw [List.mem_singleton.mp member, ← Option.some.inj isHead]
    exact inside
  case fresh => nofun
  case counted =>
    intro found same
    cases same
    exact ⟨le_rfl, one.trans (min_eq_left (le_max_right limit 1)).symm⟩
  case bounded =>
    intro start member
    rw [List.mem_singleton.mp member, one]
    exact le_max_right _ _

omit [IsOrderedAddMonoid Time] in
theorem Counted.starts_eq {seen log : List Request} {found : Counter Time}
    (account : Counted length limit time seen (some found) log) :
    ∃ earlier, starts length time seen = found.windowStartedAt :: earlier := by
  have head := account.current
  cases windows : starts length time seen with
  | nil =>
      rw [windows] at head
      cases head
  | cons start earlier =>
      rw [windows] at head
      exact ⟨earlier, by rw [Option.some.inj head]⟩

omit [IsOrderedAddMonoid Time] in
/-- The other windows were over when the last one began. -/
theorem Counted.over_of_ne {seen log : List Request} {found : Counter Time}
    (account : Counted length limit time seen (some found) log) {start : Time}
    (member : start ∈ starts length time seen) (other : start ≠ found.windowStartedAt) :
    start + length ≤ found.windowStartedAt := by
  obtain ⟨earlier, windows⟩ := account.starts_eq
  have apart := account.apart
  rw [windows] at member apart
  exact (List.pairwise_cons.mp apart).1 start ((List.mem_cons.mp member).resolve_left other)

omit [IsOrderedAddMonoid Time] in
/-- The last window has begun when another request comes. -/
theorem Counted.begun {seen log : List Request} {found : Counter Time} {request : Request}
    (account : Counted length limit time seen (some found) log)
    (ordered : ∀ earlier ∈ seen, time earlier ≤ time request) :
    found.windowStartedAt ≤ time request := by
  obtain ⟨earlier, windows⟩ := account.starts_eq
  obtain ⟨opener, member, isOpener⟩ :=
    account.among found.windowStartedAt (by rw [windows]; exact List.mem_cons_self)
  rw [← isOpener]
  exact ordered opener member

/-- A request after the end of the last window opens a new one. -/
theorem counted_opened (positive : 0 < length) {seen log : List Request} {request : Request}
    {found : Counter Time} (before : Counted length limit time seen (some found) log)
    (past : found.windowStartedAt + length ≤ time request) :
    Counted length limit time (seen ++ [request]) (some ⟨time request, 1⟩) (log ++ [request]) := by
  obtain ⟨earlier, windows⟩ := before.starts_eq
  have later : starts length time (seen ++ [request]) =
      time request :: found.windowStartedAt :: earlier := by
    rw [starts_append_singleton, windows, opened, if_pos (le_sub_iff_add_le'.mpr past)]
  have inside : time request < time request + length := lt_add_of_pos_right _ positive
  have logged (old : Request) (member : old ∈ log) : time old < time request :=
    (before.recent _ (by rw [windows]; rfl) old member).trans_le past
  have ended (start : Time) (member : start ∈ starts length time seen) :
      start + length ≤ time request := by
    by_cases isLast : start = found.windowStartedAt
    · rw [isLast]
      exact past
    · have begun := (before.over_of_ne member isLast).trans (le_add_of_nonneg_right positive.le)
      exact begun.trans past
  have one : (((log ++ [request]).filter (inWindow length time (time request))).length : Int) =
      1 := by
    have none : log.filter (inWindow length time (time request)) = [] := by
      apply List.filter_eq_nil_iff.mpr
      intro old member
      rw [inWindow_iff]
      exact fun found => (logged old member).not_ge found.1
    rw [length_filter_logged, none, if_pos (inWindow_iff.mpr ⟨le_rfl, inside⟩)]
    rfl
  constructor
  case current => rw [later]; rfl
  case among =>
    intro start member
    rw [later, ← windows] at member
    rcases List.mem_cons.mp member with rfl | old
    · exact ⟨request, List.mem_append_right _ List.mem_cons_self, rfl⟩
    · obtain ⟨opener, here, same⟩ := before.among start old
      exact ⟨opener, List.mem_append_left _ here, same⟩
  case apart =>
    rw [later, ← windows]
    exact List.pairwise_cons.mpr ⟨ended, before.apart⟩
  case recent =>
    intro start isHead old member
    rw [later] at isHead
    rw [← Option.some.inj isHead]
    rcases List.mem_append.mp member with earlier | last
    · exact (logged old earlier).trans inside
    · rw [List.mem_singleton.mp last]
      exact inside
  case fresh => nofun
  case counted =>
    intro found same
    cases same
    exact ⟨le_rfl, one.trans (min_eq_left (le_max_right limit 1)).symm⟩
  case bounded =>
    intro start member
    rw [later, ← windows] at member
    rcases List.mem_cons.mp member with rfl | old
    · rw [one]
      exact le_max_right _ _
    · rw [length_filter_of_over (ended start old)]
      exact before.bounded start old

/-- A request within the last window is counted in it. -/
theorem counted_again {seen log : List Request} {request : Request} {found : Counter Time}
    (before : Counted length limit time seen (some found) log)
    (ordered : ∀ earlier ∈ seen, time earlier ≤ time request)
    (within : time request < found.windowStartedAt + length) :
    Counted length limit time (seen ++ [request])
      (some { found with count := found.count + 1 })
      (if found.count + 1 ≤ limit then log ++ [request] else log) := by
  obtain ⟨earlier, windows⟩ := before.starts_eq
  have same : starts length time (seen ++ [request]) = starts length time seen := by
    rw [starts_append_singleton, windows, opened, if_neg]
    rw [le_sub_iff_add_le']
    exact within.not_ge
  have begun := before.begun ordered
  have inside := inWindow_iff.mpr ⟨begun, within⟩
  obtain ⟨positive, admitted⟩ := before.counted found rfl
  have counted : (((if found.count + 1 ≤ limit then log ++ [request] else log).filter
      (inWindow length time found.windowStartedAt)).length : Int) =
        min (found.count + 1) (max limit 1) := by
    split
    · rw [length_filter_logged, if_pos inside, Int.natCast_add, admitted]
      omega
    · rw [admitted]
      omega
  constructor
  case current =>
    rw [same]
    exact before.current
  case among =>
    intro start member
    rw [same] at member
    obtain ⟨opener, here, isOpener⟩ := before.among start member
    exact ⟨opener, List.mem_append_left _ here, isOpener⟩
  case apart =>
    rw [same]
    exact before.apart
  case recent =>
    intro start isHead old member
    rw [same] at isHead
    have kept := before.recent start isHead
    split at member
    · rcases List.mem_append.mp member with earlier | last
      · exact kept old earlier
      · rw [windows] at isHead
        rw [List.mem_singleton.mp last, ← Option.some.inj isHead]
        exact within
    · exact kept old member
  case fresh => nofun
  case counted =>
    intro bumped isBumped
    cases isBumped
    dsimp only
    exact ⟨by omega, counted⟩
  case bounded =>
    intro start member
    rw [same] at member
    by_cases isLast : start = found.windowStartedAt
    · rw [isLast, counted]
      exact min_le_right _ _
    · have past := (before.over_of_ne member isLast).trans begun
      split
      · rw [length_filter_of_over past]
        exact before.bounded start member
      · exact before.bounded start member

/-- One request keeps the account. -/
theorem counted_step (positive : 0 < length) (seen : List Request) (request : Request)
    (counter : Option (Counter Time)) (log : List Request)
    (ordered : ∀ earlier ∈ seen, time earlier ≤ time request)
    (before : Counted length limit time seen counter log) :
    Counted length limit time (seen ++ [request]) (gate length limit time counter request).2
      (Admission.logged (gate length limit time) counter request log) := by
  cases counter with
  | none =>
      obtain ⟨noneSeen, noneLogged⟩ := before.fresh rfl
      rw [noneSeen, noneLogged]
      exact counted_first positive request
  | some found =>
      by_cases past : length ≤ time request - found.windowStartedAt
      · have opens : gate length limit time (some found) request =
            (true, some ⟨time request, 1⟩) := if_pos past
        rw [Admission.logged, opens, if_pos rfl]
        exact counted_opened positive before (le_sub_iff_add_le'.mp past)
      · have counts : gate length limit time (some found) request =
            (decide (found.count + 1 ≤ limit), some { found with count := found.count + 1 }) :=
          if_neg past
        rw [le_sub_iff_add_le', not_le] at past
        rw [Admission.logged, counts]
        simp only [decide_eq_true_eq]
        exact counted_again before ordered past

variable (limit time) in
/-- The account is right after every run whose requests come in the order of their times. -/
theorem counted_run (positive : 0 < length) {requests : List Request}
    (ordered : requests.Pairwise fun earlier later => time earlier ≤ time later) :
    Counted length limit time requests (Admission.after (gate length limit time) none requests)
      (Admission.admitted (gate length limit time) none requests) := by
  refine Admission.holds_of_step ?_ (counted_step positive) ordered
  exact ⟨rfl, nofun, List.Pairwise.nil, nofun, fun _ => ⟨rfl, rfl⟩, nofun, nofun⟩

/-- A request is rejected only in a window with as many admitted requests as the limit. -/
theorem full_of_rejected {seen log : List Request} {counter : Option (Counter Time)}
    {request : Request} (account : Counted length limit time seen counter log)
    (rejected : (gate length limit time counter request).1 = false) :
    ∃ start, (starts length time seen).head? = some start ∧ time request < start + length ∧
      limit ≤ (log.filter (inWindow length time start)).length := by
  cases counter with
  | none => cases rejected
  | some found =>
      by_cases past : length ≤ time request - found.windowStartedAt
      · rw [gate, if_pos past] at rejected
        cases rejected
      · rw [gate, if_neg past] at rejected
        rw [le_sub_iff_add_le', not_le] at past
        obtain ⟨positive, admitted⟩ := account.counted found rfl
        have full := of_decide_eq_false rejected
        refine ⟨found.windowStartedAt, account.current, past, ?_⟩
        rw [admitted]
        omega

omit [IsOrderedAddMonoid Time] in
/-- With the first request there is a window. -/
theorem Counted.exists_window {seen log : List Request} {counter : Option (Counter Time)}
    {request : Request} (account : Counted length limit time seen counter log)
    (member : request ∈ seen) : ∃ start, (starts length time seen).head? = some start := by
  cases counter with
  | none =>
      rw [(account.fresh rfl).1] at member
      cases member
  | some found => exact ⟨_, account.current⟩

omit [IsOrderedAddMonoid Time] in
/-- The last window has an admitted request. -/
theorem one_le_admitted {seen log : List Request} {counter : Option (Counter Time)} {start : Time}
    (account : Counted length limit time seen counter log)
    (isLast : (starts length time seen).head? = some start) :
    1 ≤ ((log.filter (inWindow length time start)).length : Int) := by
  rw [account.current] at isLast
  obtain ⟨found, isFound, same⟩ := Option.map_eq_some_iff.mp isLast
  obtain ⟨positive, admitted⟩ := account.counted found isFound
  rw [← same, admitted]
  omega

end Runs

end FixedWindow
