import ConnPool.Session.Basic
import ConnPool.Session.Step

/-!
# Playing a session

`ConnPool.Session.play` takes one step of a script and says what it shows,
`ConnPool.Session.playAll` takes its steps one after the other, and `ConnPool.Session.run`
plays a whole script from an empty service.

A step that mentions a backend brings it into being, whatever else comes of the step;
a step that fails binds no name. Where the order of closes depends on nothing but the
order in which a registry goes through its pools, the closes of the step are shown in
ascending order, and so are the failures of each pool.

Neither pools nor pruners know a longest span of time. The timer on which a script is run
does: it goes off after thirty years, whatever it was asked (`ConnPool.Step.fitTimer`). So to
run a script is to play it with its rests cut to that. What holds of every script that is
played holds of that one, too.
-/

namespace ConnPool

/-- The same failures by ascending number of the connection. -/
def ClosingReport.byId {ε : Type} (r : ClosingReport ε) : ClosingReport ε :=
  { r with failures := r.failures.mergeSort fun x y => x.id ≤ y.id }

/-- The request with every handle replaced by what it means, if each means something. -/
def Request.resolve {H K : Type} (f : H → Option K) : Request H → Option (Request K)
  | acquire key => some (acquire key)
  | release h key force => (f h).map fun h => release h key force
  | prune => some prune
  | closeAll => some closeAll

namespace Session

/-- What a step comes to: its answer, the pool it worked on, and the session after it. -/
abbrev Outcome := Answer × Option PoolId × Session

/-! ### Steps on a pool -/

/-- The answer to a request, with the name bound to what it handed out. -/
def respond (i : PoolId) (bind : Option String) (s : Session) :
    Response SimId Fault → Answer × Session
  | .acquired (.ok h) =>
    let clock := ((s.fleet.member? i).map Member.clock).getD .manual
    let serial := ((s.world.conn? h.conn).map SimConn.serial).getD 0
    (.lent h.id serial, s.bind bind (.pooled h clock))
  | .acquired (.error e) => (.refused e, s)
  | .released (.ok _) => (.done, s)
  | .released (.error e) => (.refused e, s)
  | .pruned report => (.pruned report, s)
  | .closed report => (.closed report, s)

/-- Has a pool answer a request of the script. -/
def request (i : PoolId) (r : Request String) (bind : Option String) (s : Session) :
    Answer × Session :=
  match r.resolve s.handle? with
  | none => (.invalid, s)
  | some r =>
    match s.fleet.serve i r with
    | (none, _) => (.invalid, s)
    | (some response, f) => (s.withFleet f).respond i bind response

/-- Changes how a pool is shared, if it is shared as expected now. -/
def share (i : PoolId) (m : Member) (expected sharing : Sharing) (s : Session) : Outcome :=
  if m.sharing = expected then (.done, some i, s.withFleet (s.fleet.share i sharing))
  else (.invalid, none, s)

/-- What a pool knows about the connection of a name. -/
def inspect (m : Member) (name : String) (s : Session) : Answer :=
  match s.names.get? name with
  | some (.pooled h clock) =>
    .handle h.id (m.pool.key? h.id)
      ((m.pool.idleSince? h.id).map (m.reading m.clock)) (m.reading clock h.createdAt)
  | _ => .invalid

/-- A step on a pool. -/
def playPool (i : PoolId) (step : PoolStep) (s : Session) : Outcome :=
  match s.fleet.member? i with
  | none => (.invalid, none, s)
  | some m =>
    match step with
    | .request r bind =>
      match s.request i r bind with
      | (answer, s) => (answer, some i, s)
    | .unwrap => s.share i m .oneThread .exclusive
    | .wrap sharing => s.share i m .exclusive sharing
    | .status => (.status m.pool.status, some i, s)
    | .isClosed => (.flag m.pool.closed, none, s)
    | .config => (.config m.pool.config, none, s)
    | .show spread => (.text ((m.sharing.layout m.pool).render spread), none, s)
    | .inspect name => (s.inspect m name, none, s)

/-! ### Steps on connections and backends -/

/-- The answer to a call of a connection. -/
def called (result : Except Fault Unit) : Answer :=
  match result with
  | .ok _ => .done
  | .error e => .faulted e

/-- A step on a connection. -/
def playConn (c : SimId) (step : ConnStep) (w : World) : Answer × World :=
  match step with
  | .setStatus status => (.done, w.updateConn c fun k => { k with status })
  | .sever => (.done, w.updateConn c fun k => { k with closed := true })
  | .comply onClose onRollback => (.done, w.updateConn c fun k => { k with onClose, onRollback })
  | .close =>
    match w.close c with
    | (result, w) => (called result, w)
  | .rollback =>
    match w.rollback c with
    | (result, w) => (called result, w)
  | .recycle =>
    match (World.driver 0 .manual).recycle c w with
    | (outcome, w) => (.recycled outcome, w)
  | .inspect => ((w.conn? c).elim .invalid .conn, w)

/-- A step on a backend. -/
def playBackend (b : Nat) (step : BackendStep) (s : Session) : Answer × Session :=
  let update (f : Backend → Backend) := (Answer.done, s.withWorld (s.world.updateBackend b f))
  match step with
  | .connect name =>
    match s.world.connect b with
    | (.error e, w) => (.faulted e, s.withWorld w)
    | (.ok c, w) =>
      (.opened (((w.conn? c).map SimConn.serial).getD 0), (s.withWorld w).bind name (.bare c))
  | .refuseNext n => update fun k => { k with refusals := n }
  | .refuseAll on => update fun k => { k with refuseAll := on }
  | .failClose on => update fun k => { k with failClose := on }
  | .failRollback on => update fun k => { k with failRollback := on }
  | .birth birth => update fun k => { k with birth }

/-! ### Steps on the registry and on pruners -/

/-- A step on the registry. -/
def playRegistry (step : RegistryStep) (s : Session) : Outcome :=
  match step with
  | .provide dsn config backend =>
    match s.registry.provide dsn config (fun _ => backend) s.fleet with
    | (provision, registry, f) =>
      (.provided provision.result provision.asked, provision.result.toOption,
        { s.withFleet f with registry })
  | .get dsn =>
    match s.registry.get? dsn with
    | none => (.nothing, none, s)
    | some i => (.found i, some i, s)
  | .remove dsn =>
    match s.registry.remove dsn s.fleet with
    | (none, registry, f) => (.nothing, none, { s.withFleet f with registry })
    | (some report, registry, f) =>
      (.closed report.byId, none, { s.withFleet f with registry })
  | .closeAll =>
    match s.registry.closeAll s.fleet with
    | (reports, registry, f) =>
      (.tornDown (reports.map fun e => (e.1, e.2.byId)), none, { s.withFleet f with registry })
  | .dsns => (.dsns s.registry.dsns, none, s)
  | .show spread => (.text (s.registry.layout.render spread), none, s)

/-- A step on a pruner. -/
def playPruner (j : Nat) (step : PrunerStep) (s : Service) : Answer × Service :=
  match step with
  | .finished => ((s.finished? j).elim .nothing .flag, s)
  | .shutdown =>
    match s.shutdown j with
    | (held, s) => (if held then .done else .nothing, s)
  | .join limit =>
    match s.join j limit with
    | (ended, s) => (ended.elim .nothing .flag, s)

/-! ### Steps of a script -/

/-- The backend a step mentions, if it mentions one. -/
def mentioned : Step → Option Nat
  | .build _ _ b _ => some b
  | .backend b _ => some b
  | .registry (.provide _ _ b) => some b
  | _ => none

/-- Takes a step in a session in which its backend exists. -/
def perform (step : Step) (s : Session) : Outcome :=
  match step with
  | .build sharing config backend clock =>
    match s.fleet.build sharing config backend clock with
    | (.error e, f) => (.refused e, none, s.withFleet f)
    | (.ok i, f) => (.done, some i, s.withFleet f)
  | .pool i step => s.playPool i step
  | .conn name step =>
    match s.names.get? name with
    | none => (.invalid, none, s)
    | some b =>
      match playConn b.conn step s.world with
      | (answer, w) => (answer, none, s.withWorld w)
  | .compare name other =>
    match s.handle? name, s.handle? other with
    | some h, some k => (.comparison (h.isSame k) (h.id = k.id) (h.id < k.id), none, s)
    | _, _ => (.invalid, none, s)
  | .backend b step =>
    match s.playBackend b step with
    | (answer, s) => (answer, none, s)
  | .advance span =>
    let w := s.world.advance span
    (.elapsed w.manual, none, s.withWorld w)
  | .registry step => s.playRegistry step
  | .spawnPruner i interval =>
    match s.service.spawn i interval with
    | (j, service) => (.spawned j, none, { s with service })
  | .pruner j step =>
    match playPruner j step s.service with
    | (answer, service) => (answer, none, { s with service })
  | .wait i span =>
    (.done, (s.fleet.member? i).map fun _ => i, { s with service := s.service.wait span })

/-- Takes a step, whatever backend it mentions. -/
def take (step : Step) (s : Session) : Outcome :=
  match mentioned step with
  | none => s.perform step
  | some b => (s.withWorld (s.world.mention b)).perform step

/-- Whether the order of the closes of a step is that of a registry's pools alone. -/
def closesInAnyOrder : Step → Bool
  | .registry (.remove _) => true
  | .registry .closeAll => true
  | _ => false

/-- For each backend the closes logged after a world, in the order in which they are
shown. -/
def closesSince (step : Step) (before after : World) : List (List Nat) :=
  after.backends.zipIdx.map fun e =>
    let closes := e.1.closeLog.drop (before.backend e.2).closeLog.length
    if closesInAnyOrder step then closes.mergeSort else closes

/-- **Takes a step and says what it shows.** -/
def play (step : Step) (s : Session) : Reply × Session :=
  match s.take step with
  | (answer, shown, after) =>
    ({ answer
       pool := shown.bind fun i => (after.fleet.member? i).map fun m => (i, m.view)
       backends := after.world.backends
       closes := closesSince step s.world after.world }, after)

/-- Plays the steps of a script, one after the other. -/
def playAll : List Step → Session → List Reply × Session
  | [], s => ([], s)
  | step :: rest, s =>
    match s.play step with
    | (reply, s) =>
      match playAll rest s with
      | (replies, s) => (reply :: replies, s)

end Session

/-! ### Scripts on a timer -/

/-- The longest rest of the timer, in milliseconds: thirty years of 365 days. -/
def longestRest : Nat := 30 * 365 * 24 * 60 * 60 * 1000

/-- The step with its rests cut to what the timer can do. Other steps do not rest. -/
def Step.fitTimer : Step → Step
  | spawnPruner i interval => spawnPruner i (interval.min (Duration.ofMillis longestRest))
  | pruner j (.join limit) => pruner j (.join (min limit longestRest))
  | wait i span => wait i (min span longestRest)
  | step => step

/-- **Runs a script**: plays it from an empty service, on the timer. -/
def Session.run (script : List Step) : List Reply :=
  (Session.playAll (script.map Step.fitTimer) {}).1

end ConnPool
