import Mathlib.Algebra.Order.Ring.Rat
import OpcuaGds.Foundation.FixedWindow

/-! # The rate limiter of the OPC UA facade

`_allow_request`, `_allow_enrollment` and `_allow` of the boundary adapter: two limiters with
counters by key, and what a run of requests sees of them.
-/

namespace OpcuaGds.Gds.Facade

/-! ## The limiters -/

abbrev RateCounter := FixedWindow.Counter ℚ

/-- The counters of a limiter, by key. -/
abbrev Counters := String → Option RateCounter

/-- What `_context` takes from a payload for the limiters. -/
structure Context where
  opcuaSessionId : Option String
  applicationUri : Option String
  deriving DecidableEq, Repr

structure Settings where
  opcuaFacadeSessionRequestLimit : Int
  opcuaFacadeClientEnrollmentLimit : Int

/-- `_allow`. -/
def allow (counters : Counters) (key : String) (limit : Int) (now : ℚ) : Bool × Counters :=
  match counters key with
  | none => (true, Function.update counters key (some ⟨now, 1⟩))
  | some counter =>
      if 60 ≤ now - counter.windowStartedAt then
        (true, Function.update counters key (some ⟨now, 1⟩))
      else
        let counter := { counter with count := counter.count + 1 }
        (decide (counter.count ≤ limit), Function.update counters key (some counter))

/-- `first or second`, where `None` is no text. -/
def orText (first : Option String) (second : String) : String :=
  match first with
  | none => second
  | some text => if text = "" then second else text

inductive Limiter where
  | session
  | enrollment
  deriving DecidableEq, Repr

/-- A call of one of the limiters. -/
structure Request where
  limiter : Limiter
  context : Context
  time : ℚ
  deriving DecidableEq, Repr

/-- The key that a limiter counts a request under. -/
def Request.key (request : Request) : String :=
  match request.limiter with
  | .session => orText request.context.opcuaSessionId "anonymous"
  | .enrollment =>
      orText request.context.applicationUri (orText request.context.opcuaSessionId "anonymous")

/-- `_session_limits` and `_enrollment_limits`. -/
structure Limits where
  sessionLimits : Counters
  enrollmentLimits : Counters

def Limits.empty : Limits := ⟨fun _ => none, fun _ => none⟩

def Settings.limit (settings : Settings) : Limiter → Int
  | .session => settings.opcuaFacadeSessionRequestLimit
  | .enrollment => settings.opcuaFacadeClientEnrollmentLimit

section Runs

variable (settings : Settings)

/-- `_allow_request` and `_allow_enrollment`. -/
def decideRequest (limits : Limits) (request : Request) : Bool × Limits :=
  match request.limiter with
  | .session =>
      let (allowed, counters) := allow limits.sessionLimits request.key
        settings.opcuaFacadeSessionRequestLimit request.time
      (allowed, { limits with sessionLimits := counters })
  | .enrollment =>
      let (allowed, counters) := allow limits.enrollmentLimits request.key
        settings.opcuaFacadeClientEnrollmentLimit request.time
      (allowed, { limits with enrollmentLimits := counters })

/-- The request is counted under the key of the limiter. -/
def concerns (limiter : Limiter) (key : String) (request : Request) : Bool :=
  request.limiter == limiter && request.key == key

/-- The starts of the counting windows of a key, the last one first. -/
def windows (limiter : Limiter) (key : String) (requests : List Request) : List ℚ :=
  FixedWindow.starts 60 Request.time (requests.filter (concerns limiter key))

/-- The requests of a key that are accepted within the window. -/
def acceptedWithin (limiter : Limiter) (key : String) (start : ℚ) (requests : List Request) :
    List Request :=
  ((Admission.admitted (decideRequest settings) .empty requests).filter
    (concerns limiter key)).filter (FixedWindow.inWindow 60 Request.time start)

/-- Whether the request after the others is accepted. -/
def accepts (seen : List Request) (request : Request) : Bool :=
  (decideRequest settings (Admission.after (decideRequest settings) .empty seen) request).1

/-- The limits are kept: in each window of a key at most so many requests are accepted as its limit
says, a request is rejected only when so many have been accepted in the current window, and it is
decided as if there were no requests of other keys. -/
structure KeepsLimits (requests : List Request) : Prop where
  atMost : ∀ limiter key, ∀ start ∈ windows limiter key requests,
    (acceptedWithin settings limiter key start requests).length ≤ settings.limit limiter
  onlyFull : ∀ seen request rest, requests = seen ++ request :: rest →
    accepts settings seen request = false →
      ∃ start, (windows request.limiter request.key seen).head? = some start ∧
        request.time < start + 60 ∧
        settings.limit request.limiter ≤
          (acceptedWithin settings request.limiter request.key start seen).length
  independent : ∀ seen request rest, requests = seen ++ request :: rest →
    accepts settings seen request =
      accepts settings (seen.filter (concerns request.limiter request.key)) request

end Runs

/-! ## One key -/

section Keys

variable {settings : Settings} {limiter : Limiter} {key : String}

/-- The counter of a key. -/
def counterOf (limiter : Limiter) (key : String) (limits : Limits) : Option RateCounter :=
  match limiter with
  | .session => limits.sessionLimits key
  | .enrollment => limits.enrollmentLimits key

/-- `_allow` decides by the counter of the key and changes that alone. -/
theorem allow_eq (counters : Counters) (key : String) (limit : Int) (request : Request) :
    allow counters key limit request.time =
      let decided := FixedWindow.gate 60 limit Request.time (counters key) request
      (decided.1, Function.update counters key decided.2) := by
  unfold allow FixedWindow.gate
  cases counters key with
  | none => rfl
  | some counter =>
      dsimp only
      split <;> rfl

theorem concerns_iff {request : Request} :
    concerns limiter key request = true ↔ request.limiter = limiter ∧ request.key = key := by
  rw [concerns, Bool.and_eq_true, beq_iff_eq, beq_iff_eq]

theorem counterOf_decideRequest (limits : Limits) (request : Request) :
    let decided := FixedWindow.gate 60 (settings.limit request.limiter) Request.time
      (counterOf request.limiter request.key limits) request
    (decideRequest settings limits request).1 = decided.1 ∧
      ∀ limiter key, counterOf limiter key (decideRequest settings limits request).2 =
        if request.limiter = limiter ∧ key = request.key then decided.2
        else counterOf limiter key limits := by
  obtain ⟨side, context, time⟩ := request
  cases side with
  | session =>
      have allowed := allow_eq limits.sessionLimits (Request.key ⟨.session, context, time⟩)
        (settings.limit .session) ⟨.session, context, time⟩
      refine ⟨congrArg Prod.fst allowed, fun limiter key => ?_⟩
      cases limiter with
      | session =>
          refine (congrFun (congrArg Prod.snd allowed) key).trans ?_
          exact (Function.update_apply _ _ _ _).trans (if_congr (and_iff_right rfl).symm rfl rfl)
      | enrollment => exact (if_neg nofun).symm
  | enrollment =>
      have allowed := allow_eq limits.enrollmentLimits (Request.key ⟨.enrollment, context, time⟩)
        (settings.limit .enrollment) ⟨.enrollment, context, time⟩
      refine ⟨congrArg Prod.fst allowed, fun limiter key => ?_⟩
      cases limiter with
      | session => exact (if_neg nofun).symm
      | enrollment =>
          refine (congrFun (congrArg Prod.snd allowed) key).trans ?_
          exact (Function.update_apply _ _ _ _).trans (if_congr (and_iff_right rfl).symm rfl rfl)

variable (settings limiter key) in
/-- The requests of a key are decided by its counter, as by a limiter of their own. -/
theorem decides :
    Admission.Decides (decideRequest settings)
      (FixedWindow.gate 60 (settings.limit limiter) Request.time) (counterOf limiter key)
      (concerns limiter key) := by
  constructor
  case decision =>
    intro limits request concerned
    obtain ⟨rfl, rfl⟩ := concerns_iff.mp concerned
    exact (counterOf_decideRequest limits request).1
  case changes =>
    intro limits request concerned
    obtain ⟨rfl, rfl⟩ := concerns_iff.mp concerned
    rw [(counterOf_decideRequest limits request).2, if_pos ⟨rfl, rfl⟩]
  case keeps =>
    intro limits request other
    rw [(counterOf_decideRequest limits request).2, if_neg]
    intro ⟨sameLimiter, sameKey⟩
    rw [concerns_iff.mpr ⟨sameLimiter, sameKey.symm⟩] at other
    cases other

variable (settings limiter key) in
/-- What the limiter has counted for a key after a run. -/
theorem counted_key {requests : List Request}
    (ordered : requests.Pairwise fun earlier later => earlier.time ≤ later.time) :
    FixedWindow.Counted 60 (settings.limit limiter) Request.time
      (requests.filter (concerns limiter key))
      (counterOf limiter key (Admission.after (decideRequest settings) .empty requests))
      ((Admission.admitted (decideRequest settings) .empty requests).filter
        (concerns limiter key)) := by
  have start : counterOf limiter key .empty = none := by
    cases limiter <;> rfl
  have minute : (0 : ℚ) < 60 := by decide
  rw [(decides settings limiter key).after_filter, (decides settings limiter key).filter_admitted,
    start]
  exact FixedWindow.counted_run _ _ minute (ordered.filter _)

/-- A request is decided by the requests of its key before it. -/
theorem accepts_filter (seen : List Request) (request : Request) :
    accepts settings seen request =
      accepts settings (seen.filter (concerns request.limiter request.key)) request := by
  have own : concerns request.limiter request.key request = true := concerns_iff.mpr ⟨rfl, rfl⟩
  have decided := decides settings request.limiter request.key
  rw [accepts, accepts, decided.decision _ request own, decided.decision _ request own,
    decided.after_filter, decided.after_filter, List.filter_filter]
  simp only [Bool.and_self]

end Keys

/-! ## Runs -/

/-- In every run the limits are kept exactly when those of the limiters that are asked are at
least one: the first request of a window is accepted without a look at the limit. -/
theorem keepsLimits_iff (settings : Settings) (requests : List Request)
    (ordered : requests.Pairwise fun earlier later => earlier.time ≤ later.time) :
    KeepsLimits settings requests ↔ ∀ request ∈ requests, 1 ≤ settings.limit request.limiter := by
  constructor
  · intro kept request member
    have account := counted_key settings request.limiter request.key ordered
    obtain ⟨start, isLast⟩ := account.exists_window
      (List.mem_filter.mpr ⟨member, concerns_iff.mpr ⟨rfl, rfl⟩⟩)
    have opened := FixedWindow.one_le_admitted account isLast
    exact opened.trans
      (kept.atMost request.limiter request.key start (List.mem_of_mem_head? isLast))
  · intro positive
    constructor
    case atMost =>
      intro limiter key start member
      have account := counted_key settings limiter key ordered
      have asked : 1 ≤ settings.limit limiter := by
        obtain ⟨opener, listed, -⟩ := account.among start member
        obtain ⟨inRun, concerned⟩ := List.mem_filter.mp listed
        rw [← (concerns_iff.mp concerned).1]
        exact positive opener inRun
      exact (account.bounded start member).trans (max_eq_left asked).le
    case onlyFull =>
      intro seen request rest parts rejected
      rw [parts] at ordered
      have account := counted_key settings request.limiter request.key
        (List.pairwise_append.mp ordered).1
      apply FixedWindow.full_of_rejected account
      rw [← (decides settings request.limiter request.key).decision _ request
        (concerns_iff.mpr ⟨rfl, rfl⟩)]
      exact rejected
    case independent =>
      intro seen request _ _
      exact accepts_filter seen request

/-- A request of the session `s` at a time. -/
def sessionRequest (seconds : ℚ) : Request where
  limiter := .session
  context := ⟨some "s", none⟩
  time := seconds

/-- With a limit of one request the second one within a minute is rejected. -/
theorem second_request_rejected :
    KeepsLimits ⟨1, 1⟩ [sessionRequest 0, sessionRequest 59, sessionRequest 60] ∧
      Admission.admitted (decideRequest ⟨1, 1⟩) .empty
        [sessionRequest 0, sessionRequest 59, sessionRequest 60] =
          [sessionRequest 0, sessionRequest 60] := by
  refine ⟨(keepsLimits_iff ⟨1, 1⟩ _ ?_).mpr ?_, by decide +kernel⟩
  · decide +kernel
  · decide +kernel

/-- With a limit of no request the first one is accepted. -/
theorem first_request_accepted :
    accepts ⟨0, 10⟩ [] (sessionRequest 0) = true ∧
      ¬ KeepsLimits ⟨0, 10⟩ [sessionRequest 0] := by
  refine ⟨by decide +kernel, fun kept => ?_⟩
  have most := kept.atMost .session "s" 0 (by decide +kernel)
  exact absurd most (by decide +kernel)

end OpcuaGds.Gds.Facade
