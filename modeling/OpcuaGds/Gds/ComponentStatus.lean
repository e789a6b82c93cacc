import OpcuaGds.Foundation.Dict
import OpcuaGds.Foundation.PythonText
import OpcuaGds.Foundation.Transition
import OpcuaGds.Foundation.VersionedTable

/-! # The status reports of the components

Each component reports its state to the GDS, which keeps one row for each application URI and
lists the rows by the time at which they were written.
-/

namespace OpcuaGds.Gds

/-- `ComponentStatusBody`; times are instants. -/
structure ComponentStatusBody where
  applicationUri : String
  componentName : Option String
  runtimeInstanceId : Option String
  zone : Option String
  role : Option String
  target : Option String
  certificateFingerprintSha256 : Option String
  certificateNotBefore : Option Int
  certificateNotAfter : Option Int
  daysUntilExpiry : Option Int
  trustArtifactVersion : Option Int
  trustArtifactRevision : Option Int
  trustArtifactSha256 : Option String
  crlFreshnessVerified : Bool
  lastPullStatus : Option String
  lastApplyStatus : Option String
  lastRenewalStatus : Option String
  privateKeyExported : Bool
  privateKeyTouched : Bool
  runtimeWriteEnabled : Bool
  timestamp : Option Int
  deriving DecidableEq, Repr

/-- A row of `component_status`: the columns of the report, with the URI that it is stored for. -/
structure ComponentStatusRow where
  report : ComponentStatusBody
  applicationUri : String
  reportedAt : Int
  updatedAt : Int
  deriving DecidableEq, Repr

/-- The table, by its primary key. -/
abbrev ComponentStatusTable := Dict String ComponentStatusRow

/-- The database takes the value for a column of type `INTEGER`. -/
def isInteger (value : Option Int) : Bool :=
  value.all fun number => -2147483648 ≤ number && number ≤ 2147483647

/-- The row that `upsert_component_status` writes; `none` when it raises. -/
def componentStatusRow? (payload : ComponentStatusBody) (now : Int) : Option ComponentStatusRow :=
  let applicationUri := PythonText.strip payload.applicationUri
  if applicationUri = "" then none
  else if ¬(isInteger payload.daysUntilExpiry ∧ isInteger payload.trustArtifactVersion ∧
      isInteger payload.trustArtifactRevision) then none
  else some {
    report := payload
    applicationUri := applicationUri
    reportedAt := payload.timestamp.getD now
    updatedAt := now }

/-- A `POST` to the status endpoint, with what the checks before the write find (the proof of the
proxy, whether the application is registered, the authorisation), the time on the clock of the
server, and that of the database. -/
structure StatusPost where
  applicationUri : String
  body : ComponentStatusBody
  mtls : Bool
  registered : Bool
  authorized : Bool
  receivedAt : Int
  now : Int

/-- The row of a post that passes the checks. -/
def StatusPost.row? (post : StatusPost) : Option ComponentStatusRow :=
  if post.mtls ∧ post.body.applicationUri = post.applicationUri ∧ post.registered ∧
      post.authorized then
    componentStatusRow?
      { post.body with timestamp := some (post.body.timestamp.getD post.receivedAt) } post.now
  else none

/-- `post_component_lifecycle_status`: a post that is refused or raises writes nothing. -/
def postComponentLifecycleStatus (table : ComponentStatusTable) (post : StatusPost) :
    ComponentStatusTable :=
  match post.row? with
  | some row => table.set row.applicationUri row
  | none => table

def statusStep (table : ComponentStatusTable) (post : StatusPost) : Option ComponentStatusTable :=
  some (postComponentLifecycleStatus table post)

/-- `list_component_statuses`. -/
def listComponentStatuses (table : ComponentStatusTable) (limit : Nat) : List ComponentStatusRow :=
  ((table.items.map Prod.snd).insertionSort fun left right =>
    right.updatedAt ≤ left.updatedAt).take limit

/-! ## Runs -/

/-- The rows that posts write, in their order. -/
def writtenRows (posts : List StatusPost) : List ComponentStatusRow :=
  posts.filterMap StatusPost.row?

/-- The row of the last post for a URI that was stored. -/
def lastRow? (posts : List StatusPost) (applicationUri : String) : Option ComponentStatusRow :=
  (writtenRows posts).reverse.find? fun row => row.applicationUri = applicationUri

theorem writtenRows_append_singleton (past : List StatusPost) (post : StatusPost) :
    writtenRows (past ++ [post]) = writtenRows past ++ post.row?.toList := by
  rw [writtenRows, List.filterMap_append, ← writtenRows]
  cases isRow : post.row? with
  | none => simp [isRow]
  | some row => simp [isRow]

theorem run_statusStep {posts : List StatusPost} {table : ComponentStatusTable}
    (reached : Transition.run statusStep Dict.empty posts = some table) :
    table = Dict.ofList ((writtenRows posts).map fun row => (row.applicationUri, row)) := by
  refine @Transition.run_history _ _ statusStep
    (fun past table => table =
      Dict.ofList ((writtenRows past).map fun row => (row.applicationUri, row)))
    Dict.empty ?_ table posts rfl reached
  rintro past before post after - rfl stepped
  cases stepped
  rw [writtenRows_append_singleton, List.map_append, Dict.ofList, Dict.ofList, List.foldl_append,
    ← Dict.ofList, postComponentLifecycleStatus]
  cases post.row? <;> rfl

/-- The table has the last row of each URI. -/
theorem get?_run {posts : List StatusPost} {table : ComponentStatusTable}
    (reached : Transition.run statusStep Dict.empty posts = some table) (applicationUri : String) :
    table.get? applicationUri = lastRow? posts applicationUri := by
  rw [run_statusStep reached, Dict.get?_ofList, lastRow?, ← List.map_reverse]
  induction (writtenRows posts).reverse with
  | nil => rfl
  | cons row rest ih =>
      rw [List.map_cons, Dict.lookup_cons_eq_ite, List.find?_cons, ih]
      by_cases here : applicationUri = row.applicationUri
      · rw [if_pos here, decide_eq_true here.symm]
      · rw [if_neg here, decide_eq_false fun same => here same.symm]

/-! ## Listing -/

section Listing

variable {posts : List StatusPost} {table : ComponentStatusTable} {row : ComponentStatusRow}

theorem applicationUri_of_lastRow? {applicationUri : String}
    (last : lastRow? posts applicationUri = some row) : row.applicationUri = applicationUri := by
  simpa using List.find?_some last

variable (reached : Transition.run statusStep Dict.empty posts = some table)
include reached

/-- Every row is stored under its URI. -/
theorem key_of_mem_items {item : String × ComponentStatusRow} (member : item ∈ table.items) :
    item.2.applicationUri = item.1 ∧ lastRow? posts item.1 = some item.2 := by
  have last := (get?_run reached item.1).symm.trans (Dict.mem_items.mp member)
  exact ⟨applicationUri_of_lastRow? last, last⟩

theorem nodup_applicationUris :
    ((table.items.map Prod.snd).map ComponentStatusRow.applicationUri).Nodup := by
  have keys : (table.items.map Prod.snd).map ComponentStatusRow.applicationUri = table.keys := by
    rw [List.map_map]
    exact List.map_congr_left fun item member => (key_of_mem_items reached member).1
  rw [keys]
  exact table.nodup

theorem nodup_listComponentStatuses (limit : Nat) :
    ((listComponentStatuses table limit).map ComponentStatusRow.applicationUri).Nodup := by
  have sorted := ((List.perm_insertionSort (fun left right : ComponentStatusRow =>
    right.updatedAt ≤ left.updatedAt) (table.items.map Prod.snd)).map
      ComponentStatusRow.applicationUri).nodup_iff.mpr (nodup_applicationUris reached)
  exact sorted.sublist ((List.take_sublist limit _).map _)

/-- Only the last row of a URI is listed. -/
theorem lastRow?_of_listed {limit : Nat} (listed : row ∈ listComponentStatuses table limit) :
    lastRow? posts row.applicationUri = some row := by
  have stored := (List.mem_insertionSort _).mp (List.mem_of_mem_take listed)
  obtain ⟨item, member, rfl⟩ := List.mem_map.mp stored
  obtain ⟨same, last⟩ := key_of_mem_items reached member
  rw [same]
  exact last

/-- The last row of a URI is listed, unless too many others are as new. -/
theorem listed_of_lastRow? {applicationUri : String}
    (last : lastRow? posts applicationUri = some row) {limit : Nat}
    (few : ((table.items.map Prod.snd).countP fun other =>
      other ≠ row ∧ row.updatedAt ≤ other.updatedAt) < limit) :
    row ∈ listComponentStatuses table limit := by
  have held := (get?_run reached applicationUri).trans last
  have stored : row ∈ table.items.map Prod.snd :=
    List.mem_map.mpr ⟨_, Dict.mem_items.mpr held, rfl⟩
  exact VersionedTable.mem_take_insertionSort ComponentStatusRow.updatedAt stored few

end Listing

end OpcuaGds.Gds
