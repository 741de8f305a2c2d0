import ToxTunnel.Interleaving

/-!
The health `TunnelClient` keeps for each configured server. Friend connection
events, keepalive recoveries, dead verdicts, standby PONGs and failover switches
are tasks of the inbound strand; the keepalive timer of the manager judges on its
own thread. A section under `endpoints_mutex_` is one step.

A wait of the keepalive timer carries the server that was active when its
generation began: its silence is what a verdict of that tick is about. Clock
readings, and whether the peer has been silent for too long, come with each step.
-/

namespace ToxTunnel.FailoverHealth
open Interleaving

section Decision

/-- Times are steady-clock readings in nanoseconds, 0 for `time_point{}`. -/
structure Endpoint where
  friendNumber : UInt32
  online : Bool := false
  linkUp : Bool := false
  offlineSince : Nat := 0
  onlineSince : Nat := 0
  lastPong : Nat := 0
  probeBaseline : Nat := 0
  deriving DecidableEq

structure Settings where
  timeoutSeconds : Nat := 60
  preferPrimaryGraceSeconds : Nat := 30
  keepaliveIntervalSeconds : Nat := 0
  deriving DecidableEq

def Settings.keepaliveEnabled (settings : Settings) : Bool :=
  decide (settings.keepaliveIntervalSeconds ≠ 0)

/-- Whole seconds from one reading to another, as `duration_cast` counts them. -/
def secondsSince (now since : Nat) : Int := ((now : Int) - since).tdiv 1000000000

def lowestIndexOnlineExcept (endpoints : List Endpoint) (exclude : Nat) : Option Nat :=
  (List.range endpoints.length).find? fun index =>
    index != exclude && (endpoints[index]?).any Endpoint.online

/-- Rule 1: the active server was offline long enough. -/
def promoteFallback (endpoints : List Endpoint) (activeIndex : Nat) (active : Endpoint)
    (settings : Settings) (now : Nat) : Option Nat :=
  if active.online = false ∧ active.offlineSince ≠ 0 ∧
      (settings.timeoutSeconds : Int) ≤ secondsSince now active.offlineSince then
    lowestIndexOnlineExcept endpoints activeIndex
  else none

/-- Rule 2: the primary has been back for the grace period. -/
def returnToPrimary (endpoints : List Endpoint) (activeIndex : Nat) (settings : Settings)
    (now : Nat) : Option Nat :=
  match endpoints with
  | primary :: _ =>
      if activeIndex ≠ 0 ∧ primary.online = true ∧ primary.onlineSince ≠ 0 ∧
          (settings.preferPrimaryGraceSeconds : Int) ≤ secondsSince now primary.onlineSince then
        some 0
      else none
  | [] => none

def decideFailoverSwitch (endpoints : List Endpoint) (activeIndex : Nat) (settings : Settings)
    (now : Nat) : Option Nat :=
  match endpoints[activeIndex]? with
  | some active =>
      if endpoints.length ≤ 1 then none
      else (promoteFallback endpoints activeIndex active settings now).or
        (returnToPrimary endpoints activeIndex settings now)
  | none => none

/-- A standby whose link is up and that has not answered for three intervals. -/
def standbyExpired (settings : Settings) (now activeIndex index : Nat) (endpoint : Endpoint) :
    Bool :=
  settings.keepaliveEnabled && index != activeIndex && endpoint.linkUp && endpoint.online &&
    decide (((now : Int) - max endpoint.lastPong endpoint.probeBaseline) >
      3 * settings.keepaliveIntervalSeconds * 1000000000)

def expireStandbysLocked (settings : Settings) (now activeIndex : Nat)
    (endpoints : List Endpoint) : List Endpoint :=
  endpoints.mapIdx fun index endpoint =>
    if standbyExpired settings now activeIndex index endpoint then
      { endpoint with online := false, offlineSince := now }
    else endpoint

def standbyDue (settings : Settings) (now activeIndex : Nat) (endpoints : List Endpoint) : Bool :=
  (endpoints.mapIdx fun index endpoint =>
    standbyExpired settings now activeIndex index endpoint).any id

end Decision

section Model

/-- One wait of the keepalive timer. -/
structure Wait where
  epoch : Nat
  about : UInt32
  deriving DecidableEq

/-- What is posted to `inbound_strand_`. `about` is the server whose silence a
dead verdict reports; the code's handler only has `deadFriend`. -/
inductive Task where
  | onFriendConnection (friendNumber : UInt32) (connected : Bool)
  | frame (friendNumber : UInt32)
  | noteStandbyAlive (friendNumber : UInt32)
  | applyKeepaliveDeadVerdict (deadFriend about : UInt32)
  | applyFailoverOnStrand
  | repin (friendNumber : UInt32)
  deriving DecidableEq

/-- What a verdict did: it changed the endpoint of a server, or closed the
tunnels while some server was active. -/
inductive Effect where
  | marked (about server : UInt32)
  | standbyMarked (about server : UInt32) (isActive : Bool)
  | closed (about active : UInt32) (tunnels : List UInt32)
  deriving DecidableEq

/-- `tunnels` has the server of each registered tunnel. -/
structure Client where
  settings : Settings
  endpoints : List Endpoint
  activeIndex : Nat := 0
  serverOnline : Bool := false
  serverFriendNumber : UInt32
  strandRouteFriend : UInt32
  strandBusy : Bool := false
  strandQueue : List Task := []
  peerDeadLatched : Bool := false
  keepaliveEpoch : Nat := 0
  keepaliveActive : Bool := false
  armed : Option Wait := none
  tunnels : List UInt32 := []
  log : List Effect := []
  deriving DecidableEq

/-- Why `close_all` runs. -/
inductive Cause where
  | switch
  | verdict (about : UInt32)
  deriving DecidableEq

inductive Act where
  | post (task : Task)
  | ingress (friendNumber : UInt32) (pong : Bool)
  | handleNonActivePacket (friendNumber : UInt32) (pong : Bool)
  | takeTask
  | finishTask
  | onFriendConnection (friendNumber : UInt32) (connected : Bool)
  | notePeerActivity (friendNumber : UInt32)
  | clearLatch (friendNumber : UInt32)
  | onPeerAlive (friendNumber : UInt32)
  | noteStandbyAlive (friendNumber : UInt32)
  | applyKeepaliveDeadVerdict (deadFriend about : UInt32)
  | markDead (deadFriend about : UInt32)
  | applyFailoverOnStrand
  | switchActiveEndpoint (index : Nat)
  | closeAll (cause : Cause)
  | enableKeepalive
  | scheduleKeepaliveTick
  | disableKeepalive
  | runFailoverTick
  | keepaliveFires
  | keepaliveTick (wait : Wait)
  | judgeSilence (wait : Wait)
  | checkLatch (wait : Wait)
  | declareDead (wait : Wait)
  | onPeerDead (about : UInt32)
  | rearmKeepalive (wait : Wait)
  | openTunnel
  | addTunnel (friendNumber : UInt32)
  | removeTunnel (friendNumber : UInt32)
  deriving DecidableEq

/-- The clock is read past its epoch. -/
structure Choice where
  sinceEpoch : Nat := 0
  silent : Bool := true
  deriving DecidableEq

def Choice.now (choice : Choice) : Nat := choice.sinceEpoch + 1

/-- The strand takes its next task. -/
def takeTask (client : Client) : Task → Client × List Act
  | .onFriendConnection friendNumber connected =>
      ({ client with strandBusy := true }, [.onFriendConnection friendNumber connected])
  | .frame friendNumber =>
      -- A late frame of a demoted server is not credited to its successor.
      if friendNumber = client.strandRouteFriend then
        ({ client with strandBusy := true }, [.notePeerActivity friendNumber])
      else (client, [])
  | .noteStandbyAlive friendNumber =>
      ({ client with strandBusy := true }, [.noteStandbyAlive friendNumber])
  | .applyKeepaliveDeadVerdict deadFriend about =>
      ({ client with strandBusy := true }, [.applyKeepaliveDeadVerdict deadFriend about])
  | .applyFailoverOnStrand => ({ client with strandBusy := true }, [.applyFailoverOnStrand])
  | .repin friendNumber => ({ client with strandRouteFriend := friendNumber }, [])

def Endpoint.connection (now : Nat) (connected : Bool) (endpoint : Endpoint) : Endpoint :=
  { endpoint with
    onlineSince := if connected ∧ ¬ endpoint.online then now else endpoint.onlineSince
    probeBaseline := if connected ∧ ¬ endpoint.linkUp then now else endpoint.probeBaseline
    offlineSince := if ¬ connected ∧ endpoint.online then now else endpoint.offlineSince
    online := connected
    linkUp := connected }

def Endpoint.restored (now : Nat) (endpoint : Endpoint) : Endpoint :=
  { endpoint with online := true, onlineSince := now }

def Endpoint.failed (now : Nat) (endpoint : Endpoint) : Endpoint :=
  if endpoint.online then { endpoint with online := false, offlineSince := now } else endpoint

def Endpoint.answered (now : Nat) (endpoint : Endpoint) : Endpoint :=
  let heard := { endpoint with lastPong := now }
  if heard.linkUp && !heard.online then heard.restored now else heard

def findFriend (endpoints : List Endpoint) (friendNumber : UInt32) : Option Nat :=
  endpoints.findIdx? fun endpoint => endpoint.friendNumber == friendNumber

def exec (choice : Choice) (client : Client) : Act → Client × List Act
  | .post task => ({ client with strandQueue := client.strandQueue ++ [task] }, [])
  | .ingress friendNumber pong =>
      match client.endpoints[client.activeIndex]? with
      | some active =>
          (client, if active.friendNumber = friendNumber then [.post (.frame friendNumber)]
            else [.handleNonActivePacket friendNumber pong])
      | none => (client, [.handleNonActivePacket friendNumber pong])
  | .handleNonActivePacket friendNumber pong =>
      match findFriend client.endpoints friendNumber with
      | some index =>
          (client, if index ≠ client.activeIndex ∧ pong = true then
            [.post (.noteStandbyAlive friendNumber)] else [])
      | none => (client, [])
  | .takeTask =>
      match client.strandBusy, client.strandQueue with
      | false, task :: rest => takeTask { client with strandQueue := rest } task
      | _, _ => (client, [])
  | .finishTask => ({ client with strandBusy := false }, [])
  | .onFriendConnection friendNumber connected =>
      match findFriend client.endpoints friendNumber with
      | none => (client, [.finishTask])
      | some index =>
          ({ client with
              endpoints := client.endpoints.modify index (.connection choice.now connected)
              serverOnline := if index = client.activeIndex then connected
                else client.serverOnline },
            if index = client.activeIndex then
              if connected then
                if client.settings.keepaliveEnabled then [.enableKeepalive] else [.finishTask]
              else [.disableKeepalive]
            else [.finishTask])
  | .notePeerActivity friendNumber =>
      (client, if client.peerDeadLatched then [.clearLatch friendNumber] else [.finishTask])
  | .clearLatch friendNumber =>
      ({ client with peerDeadLatched := false },
        if client.peerDeadLatched then [.onPeerAlive friendNumber] else [.finishTask])
  | .onPeerAlive friendNumber =>
      match client.endpoints[client.activeIndex]? with
      | some active =>
          if active.friendNumber = client.strandRouteFriend ∧ active.linkUp = true ∧
              active.online = false then
            ({ client with
                endpoints := client.endpoints.modify client.activeIndex (.restored choice.now)
                serverOnline := true
                log := .marked friendNumber active.friendNumber :: client.log }, [.finishTask])
          else (client, [.finishTask])
      | none => (client, [.finishTask])
  | .noteStandbyAlive friendNumber =>
      match findFriend client.endpoints friendNumber with
      | none => (client, [.finishTask])
      | some index =>
          -- Promoted since: the active server's health is the keepalive's business.
          if index = client.activeIndex then (client, [.finishTask])
          else
            ({ client with
                endpoints := client.endpoints.modify index (.answered choice.now)
                log := .standbyMarked friendNumber
                  ((client.endpoints[index]?).elim 0 Endpoint.friendNumber)
                  (decide (index = client.activeIndex)) :: client.log }, [.finishTask])
  | .applyKeepaliveDeadVerdict deadFriend about =>
      (client, if client.peerDeadLatched ∧ deadFriend = client.strandRouteFriend then
        [.markDead deadFriend about] else [.finishTask])
  | .markDead deadFriend about =>
      match client.endpoints[client.activeIndex]? with
      | some active =>
          -- The switch publishes the new server before the route is repinned.
          if active.friendNumber ≠ deadFriend ∨ active.linkUp = false then (client, [.finishTask])
          else
            ({ client with
                endpoints := client.endpoints.modify client.activeIndex (.failed choice.now)
                serverOnline := false
                log := .marked about active.friendNumber :: client.log },
              [.closeAll (.verdict about)])
      | none => (client, [.finishTask])
  | .applyFailoverOnStrand =>
      let endpoints := expireStandbysLocked client.settings choice.now client.activeIndex
        client.endpoints
      ({ client with endpoints },
        match decideFailoverSwitch endpoints client.activeIndex client.settings choice.now with
        | some index => [.switchActiveEndpoint index]
        | none => [.finishTask])
  | .switchActiveEndpoint index =>
      match client.endpoints[index]? with
      | none => (client, [.finishTask])
      | some endpoint =>
          if index = client.activeIndex then (client, [.finishTask])
          else
            ({ client with
                endpoints := client.endpoints.modify client.activeIndex fun demoted =>
                  { demoted with probeBaseline := choice.now }
                activeIndex := index
                serverOnline := endpoint.online
                serverFriendNumber := endpoint.friendNumber
                strandQueue := client.strandQueue ++ [.repin endpoint.friendNumber] },
              [.closeAll .switch])
  | .closeAll .switch =>
      ({ client with tunnels := [] },
        if client.settings.keepaliveEnabled then [.enableKeepalive] else [.finishTask])
  | .closeAll (.verdict about) =>
      ({ client with
          tunnels := []
          log := .closed about client.serverFriendNumber client.tunnels :: client.log },
        [.finishTask])
  | .enableKeepalive => ({ client with peerDeadLatched := false }, [.scheduleKeepaliveTick])
  | .scheduleKeepaliveTick =>
      ({ client with
          keepaliveEpoch := client.keepaliveEpoch + 1
          keepaliveActive := true
          armed := some ⟨client.keepaliveEpoch + 1, client.serverFriendNumber⟩ }, [.finishTask])
  | .disableKeepalive =>
      ({ client with
          keepaliveEpoch := client.keepaliveEpoch + 1
          keepaliveActive := false
          armed := if client.keepaliveActive then none else client.armed }, [.finishTask])
  | .runFailoverTick =>
      (client,
        if (decideFailoverSwitch client.endpoints client.activeIndex client.settings
              choice.now).isSome ∨
            standbyDue client.settings choice.now client.activeIndex client.endpoints = true then
          [.post .applyFailoverOnStrand] else [])
  | .keepaliveFires =>
      match client.armed with
      | some wait => ({ client with armed := none }, [.keepaliveTick wait])
      | none => (client, [])
  | .keepaliveTick wait =>
      (client, if wait.epoch = client.keepaliveEpoch ∧ client.keepaliveActive then
        [.judgeSilence wait] else [])
  | .judgeSilence wait =>
      -- Without tunnels the clock of the silence is reset first.
      (client, if choice.silent = true ∧ client.tunnels ≠ [] then [.checkLatch wait]
        else [.rearmKeepalive wait])
  | .checkLatch wait =>
      (client, if client.peerDeadLatched then [.rearmKeepalive wait] else [.declareDead wait])
  | .declareDead wait =>
      ({ client with peerDeadLatched := true },
        if client.peerDeadLatched then [.rearmKeepalive wait]
        else [.onPeerDead wait.about, .rearmKeepalive wait])
  | .onPeerDead about =>
      (client, [.post (.applyKeepaliveDeadVerdict client.serverFriendNumber about)])
  | .rearmKeepalive wait =>
      if wait.epoch = client.keepaliveEpoch then
        ({ client with keepaliveActive := true, armed := some wait }, [])
      else (client, [])
  | .openTunnel =>
      (client, if client.serverOnline then [.addTunnel client.serverFriendNumber] else [])
  | .addTunnel friendNumber => ({ client with tunnels := friendNumber :: client.tunnels }, [])
  | .removeTunnel friendNumber =>
      ({ client with tunnels := client.tunnels.erase friendNumber }, [])

/-- What may happen at any moment: friend events and packets on the Tox thread,
the two timers, an IO thread running the strand, and tunnels coming and going. -/
inductive Op where
  | onFriendConnection (friendNumber : UInt32) (connected : Bool)
  | onLosslessPacket (friendNumber : UInt32) (pong : Bool)
  | runStrand
  | failoverTimer
  | keepaliveTimer
  | openTunnel
  | tunnelClosed (friendNumber : UInt32)
  deriving DecidableEq

def start : Op → List Act
  | .onFriendConnection friendNumber connected => [.post (.onFriendConnection friendNumber connected)]
  | .onLosslessPacket friendNumber pong => [.ingress friendNumber pong]
  | .runStrand => [.takeTask]
  | .failoverTimer => [.runFailoverTick]
  | .keepaliveTimer => [.keepaliveFires]
  | .openTunnel => [.openTunnel]
  | .tunnelClosed friendNumber => [.removeTunnel friendNumber]

def clientProgram : Program Client Act Op Choice where
  start := start
  exec := exec

/-- `initialize` with at least one server: every endpoint offline since the seed. -/
def Fresh (client : Client) : Prop :=
  ∃ (settings : Settings) (seed : Choice) (first : UInt32) (rest : List UInt32),
    client = { settings
               endpoints := (first :: rest).map fun friendNumber =>
                 { friendNumber, offlineSince := seed.now }
               serverFriendNumber := first
               strandRouteFriend := first }

end Model

attribute [local simp] exec

section Health

/-- A usable server has its link, and the time of the last transition is known. -/
structure Endpoint.Sound (endpoint : Endpoint) : Prop where
  linked : endpoint.online = true → endpoint.linkUp = true
  onlineDated : endpoint.online = true → endpoint.onlineSince ≠ 0
  offlineDated : endpoint.online = false → endpoint.offlineSince ≠ 0

/-- The active server is one of the list, and the flags outside it are copies of its own. -/
structure Healthy (endpoints : List Endpoint) (activeIndex : Nat) (serverOnline : Bool)
    (serverFriendNumber : UInt32) : Prop where
  mirrored : (endpoints[activeIndex]?).map Endpoint.online = some serverOnline
  pinned : (endpoints[activeIndex]?).map Endpoint.friendNumber = some serverFriendNumber
  sound : ∀ endpoint ∈ endpoints, endpoint.Sound

variable {endpoints : List Endpoint} {activeIndex : Nat} {serverOnline : Bool}
  {serverFriendNumber : UInt32} {endpoint : Endpoint}

theorem Choice.now_ne_zero (choice : Choice) : choice.now ≠ 0 := Nat.succ_ne_zero _

theorem Healthy.inRange
    (healthy : Healthy endpoints activeIndex serverOnline serverFriendNumber) :
    activeIndex < endpoints.length := by
  by_contra outside
  have none : endpoints[activeIndex]? = none := List.getElem?_eq_none (Nat.le_of_not_lt outside)
  have mirrored := healthy.mirrored
  rw [none] at mirrored
  cases mirrored

theorem connection_sound (choice : Choice) (connected : Bool) (sound : endpoint.Sound) :
    (endpoint.connection choice.now connected).Sound := by
  obtain ⟨linked, onlineDated, offlineDated⟩ := sound
  constructor
  · exact id
  · intro up
    have up : connected = true := up
    subst up
    by_cases before : endpoint.online = true
    · simpa [Endpoint.connection, before] using onlineDated before
    · simp [Endpoint.connection, before, choice.now_ne_zero]
  · intro down
    have down : connected = false := down
    subst down
    by_cases before : endpoint.online = true
    · simp [Endpoint.connection, before, choice.now_ne_zero]
    · simpa [Endpoint.connection, before] using offlineDated (by simpa using before)

theorem restored_sound (choice : Choice) (linkUp : endpoint.linkUp = true) :
    (endpoint.restored choice.now).Sound :=
  ⟨fun _ => linkUp, fun _ => choice.now_ne_zero, fun off => by cases off⟩

theorem offline_sound (choice : Choice) (endpoint : Endpoint) :
    Endpoint.Sound { endpoint with online := false, offlineSince := choice.now } := by
  constructor
  · exact Bool.noConfusion
  · exact Bool.noConfusion
  · exact fun _ => choice.now_ne_zero

theorem failed_sound (choice : Choice) (sound : endpoint.Sound) :
    (endpoint.failed choice.now).Sound := by
  unfold Endpoint.failed
  split
  · exact offline_sound choice endpoint
  · exact sound

theorem answered_sound (choice : Choice) (sound : endpoint.Sound) :
    (endpoint.answered choice.now).Sound := by
  simp only [Endpoint.answered]
  split
  · next back =>
      simp only [Bool.and_eq_true] at back
      exact restored_sound choice back.1
  · exact ⟨sound.linked, sound.onlineDated, sound.offlineDated⟩

/-- A transition of one endpoint, with the copy of the active one's flag. -/
theorem Healthy.modify (index : Nat) (change : Endpoint → Endpoint) (copy : Bool)
    (healthy : Healthy endpoints activeIndex serverOnline serverFriendNumber)
    (friends : ∀ endpoint, (change endpoint).friendNumber = endpoint.friendNumber)
    (sound : ∀ endpoint, endpoints[index]? = some endpoint → endpoint.Sound →
      (change endpoint).Sound)
    (copied : ∀ endpoint, endpoints[activeIndex]? = some endpoint →
      copy = if index = activeIndex then (change endpoint).online else endpoint.online) :
    Healthy (endpoints.modify index change) activeIndex copy serverFriendNumber := by
  obtain ⟨mirrored, pinned, sounds⟩ := healthy
  constructor
  · rw [List.getElem?_modify]
    cases found : endpoints[activeIndex]? with
    | none => simp [found] at mirrored
    | some active =>
        rw [copied active found]
        by_cases here : index = activeIndex <;> simp [here]
  · rw [List.getElem?_modify]
    cases found : endpoints[activeIndex]? with
    | none => simp [found] at pinned
    | some active =>
        rw [found] at pinned
        by_cases here : index = activeIndex <;> simpa [here, friends] using pinned
  · intro endpoint member
    obtain ⟨place, found⟩ := List.mem_iff_getElem?.mp member
    rw [List.getElem?_modify] at found
    obtain ⟨before, there, rfl⟩ := Option.map_eq_some_iff.mp found
    have old := sounds before (List.mem_of_getElem? there)
    by_cases here : index = place
    · subst here
      simpa using sound before there old
    · simpa [here] using old

theorem Healthy.keep (index : Nat) (change : Endpoint → Endpoint)
    (healthy : Healthy endpoints activeIndex serverOnline serverFriendNumber)
    (other : index ≠ activeIndex)
    (friends : ∀ endpoint, (change endpoint).friendNumber = endpoint.friendNumber)
    (sound : ∀ endpoint, endpoint.Sound → (change endpoint).Sound) :
    Healthy (endpoints.modify index change) activeIndex serverOnline serverFriendNumber := by
  apply healthy.modify index change serverOnline friends (fun endpoint _ => sound endpoint)
  intro active found
  have mirrored := healthy.mirrored
  rw [found] at mirrored
  rw [if_neg other]
  simpa using mirrored.symm

theorem expire_healthy (settings : Settings) (choice : Choice)
    (healthy : Healthy endpoints activeIndex serverOnline serverFriendNumber) :
    Healthy (expireStandbysLocked settings choice.now activeIndex endpoints) activeIndex
      serverOnline serverFriendNumber := by
  obtain ⟨mirrored, pinned, sounds⟩ := healthy
  have active_kept : ∀ active, standbyExpired settings choice.now activeIndex activeIndex active =
      false := by
    intro active
    simp [standbyExpired]
  constructor
  · rw [← mirrored, expireStandbysLocked, List.getElem?_mapIdx]
    cases endpoints[activeIndex]? <;> simp [active_kept]
  · rw [← pinned, expireStandbysLocked, List.getElem?_mapIdx]
    cases endpoints[activeIndex]? <;> simp [active_kept]
  · intro endpoint member
    obtain ⟨index, inside, rfl⟩ := List.mem_mapIdx.mp member
    have old := sounds _ (List.getElem_mem inside)
    split
    · exact offline_sound choice _
    · exact old

variable {choice : Choice} {client : Client} {act : Act}

theorem takeTask_health (client : Client) (task : Task) :
    (takeTask client task).1.endpoints = client.endpoints ∧
      (takeTask client task).1.activeIndex = client.activeIndex ∧
      (takeTask client task).1.serverOnline = client.serverOnline ∧
      (takeTask client task).1.serverFriendNumber = client.serverFriendNumber := by
  cases task with
  | frame friendNumber =>
      by_cases mine : friendNumber = client.strandRouteFriend <;> simp [takeTask, mine]
  | _ => simp [takeTask]

def ClientHealthy (client : Client) : Prop :=
  Healthy client.endpoints client.activeIndex client.serverOnline client.serverFriendNumber

theorem onFriendConnection_healthy (friendNumber : UInt32) (connected : Bool)
    (healthy : ClientHealthy client) :
    ClientHealthy (exec choice client (.onFriendConnection friendNumber connected)).1 := by
  simp only [exec]
  split
  · exact healthy
  · next index found =>
      apply Healthy.modify index (.connection choice.now connected) _ healthy (fun _ => rfl)
      · exact fun _ _ sound => connection_sound choice connected sound
      · intro active here
        by_cases same : index = client.activeIndex
        · simp [same, Endpoint.connection]
        · have mirrored := healthy.mirrored
          rw [here] at mirrored
          simpa [same] using mirrored.symm

theorem switch_healthy (index : Nat) (healthy : ClientHealthy client) :
    ClientHealthy (exec choice client (.switchActiveEndpoint index)).1 := by
  simp only [exec]
  split
  · exact healthy
  · next endpoint found =>
      split
      · exact healthy
      · next other =>
          have other : client.activeIndex ≠ index := fun same => other same.symm
          constructor
          · simp [other, found]
          · simp [other, found]
          · -- The demoted server only counts its silence anew.
            intro after member
            obtain ⟨place, there⟩ := List.mem_iff_getElem?.mp member
            rw [List.getElem?_modify] at there
            obtain ⟨before, was, rfl⟩ := Option.map_eq_some_iff.mp there
            have old := healthy.sound before (List.mem_of_getElem? was)
            by_cases here : client.activeIndex = place
            · simp only [here, if_true]
              exact ⟨old.linked, old.onlineDated, old.offlineDated⟩
            · simpa [here] using old

theorem exec_healthy (choice : Choice) (client : Client) (act : Act)
    (healthy : ClientHealthy client) : ClientHealthy (exec choice client act).1 := by
  cases act with
  | onFriendConnection friendNumber connected =>
      exact onFriendConnection_healthy friendNumber connected healthy
  | switchActiveEndpoint index => exact switch_healthy index healthy
  | takeTask =>
      simp only [exec]
      split
      · next task rest free queue =>
          obtain ⟨endpoints, index, online, friend⟩ :=
            takeTask_health { client with strandQueue := rest } task
          unfold ClientHealthy
          rw [endpoints, index, online, friend]
          exact healthy
      · exact healthy
  | onPeerAlive friendNumber =>
      simp only [exec]
      split
      · next active found =>
          split
          · next revives =>
              apply Healthy.modify _ (.restored choice.now) _ healthy (fun _ => rfl)
              · intro endpoint here sound
                rw [found] at here
                cases here
                exact restored_sound choice revives.2.1
              · intro endpoint here
                simp [Endpoint.restored]
          · exact healthy
      · exact healthy
  | noteStandbyAlive friendNumber =>
      simp only [exec]
      split
      · exact healthy
      · next index found =>
          split
          · exact healthy
          · next other =>
              apply Healthy.keep index (.answered choice.now) healthy other
              · intro endpoint
                simp only [Endpoint.answered]
                split <;> rfl
              · exact fun endpoint sound => answered_sound choice sound
  | markDead deadFriend about =>
      simp only [exec]
      split
      · next active found =>
          split
          · exact healthy
          · apply Healthy.modify _ (.failed choice.now) _ healthy
            · intro endpoint
              simp only [Endpoint.failed]
              split <;> rfl
            · exact fun endpoint _ sound => failed_sound choice sound
            · intro endpoint here
              by_cases on : endpoint.online = true <;> simp [Endpoint.failed, on]
      · exact healthy
  | applyFailoverOnStrand => exact expire_healthy client.settings choice healthy
  | closeAll cause => cases cause <;> exact healthy
  | _ =>
      simp only [exec]
      (repeat' split) <;> exact healthy

theorem fresh_healthy (fresh : Fresh client) : ClientHealthy client := by
  obtain ⟨settings, seed, first, rest, rfl⟩ := fresh
  constructor
  · rfl
  · rfl
  · intro endpoint member
    obtain ⟨friendNumber, -, rfl⟩ := List.mem_map.mp member
    exact ⟨Bool.noConfusion, Bool.noConfusion, fun _ => seed.now_ne_zero⟩

variable {guard : Guard Client Act Op Choice} {config : Config Client Act}

theorem reach_healthy (reached : Reach clientProgram guard Fresh config) :
    ClientHealthy config.shared :=
  reached.bag_invariant (fun client _ => ClientHealthy client) (fun _ => fresh_healthy)
    (fun _ _ _ healthy _ => healthy) (fun choice client act _ healthy _ =>
      exec_healthy choice client act healthy)

end Health

section Verdicts

/-- Each dead verdict is raised while the server it reports is still the active one. -/
def raisedInTime : Guard Client Act Op Choice := fun client _ move =>
  match move with
  | .act _ (.onPeerDead about) => about = client.serverFriendNumber
  | _ => True

instance : raisedInTime.Checked := by
  intro client others move
  unfold raisedInTime
  split <;> infer_instance

/-- The server that the effect met is the one the verdict was about; a standby it marks is
not the active server. Which tunnels a close met is not looked at. -/
def Effect.onItsServer : Effect → Bool
  | .marked about server => about == server
  | .standbyMarked about server isActive => about == server && !isActive
  | .closed about active _ => about == active

def Task.inTime : Task → Bool
  | .applyKeepaliveDeadVerdict deadFriend about => deadFriend == about
  | _ => true

/-- A step of a verdict knows the server it is about, and the running strand task
stands on the server and the route it began with. -/
def fits (server route : UInt32) : Act → Bool
  | .post task => task.inTime
  | .applyKeepaliveDeadVerdict deadFriend about | .markDead deadFriend about => deadFriend == about
  | .closeAll (.verdict about) => about == server
  | .notePeerActivity friendNumber | .clearLatch friendNumber | .onPeerAlive friendNumber =>
      friendNumber == route
  | _ => true

/-- The actions of the running strand task. -/
def onStrand : Act → Nat
  | .finishTask | .onFriendConnection _ _ | .notePeerActivity _ | .clearLatch _ | .onPeerAlive _
  | .noteStandbyAlive _ | .applyKeepaliveDeadVerdict _ _ | .markDead _ _ | .applyFailoverOnStrand
  | .switchActiveEndpoint _ | .closeAll _ | .enableKeepalive | .scheduleKeepaliveTick
  | .disableKeepalive => 1
  | _ => 0

structure Attributed (client : Client) (bag : Multiset Act) : Prop where
  token : weigh onStrand bag = client.strandBusy.toNat
  acts : ∀ act ∈ bag, fits client.serverFriendNumber client.strandRouteFriend act = true
  queue : ∀ task ∈ client.strandQueue, task.inTime = true
  log : ∀ effect ∈ client.log, effect.onItsServer = true

variable {choice : Choice} {client : Client} {act : Act} {others : Multiset Act}

/-- Off the strand a step depends on neither the server nor the route. -/
theorem fits_of_offStrand {server route : UInt32} (server' route' : UInt32)
    (off : onStrand act = 0) (fit : fits server route act = true) :
    fits server' route' act = true := by
  cases act with
  | closeAll cause => cases off
  | notePeerActivity _ | clearLatch _ | onPeerAlive _ => cases off
  | _ => exact fit

theorem offStrand_of_idle (idle : weigh onStrand others = 0) : ∀ act ∈ others, onStrand act = 0 :=
  fun _ member => Nat.le_zero.mp (idle ▸ weight_le_weigh member)

theorem Attributed.spend {after : Client} {calls : List Act}
    (before : Attributed client (act ::ₘ others))
    (busy : after.strandBusy = client.strandBusy)
    (weight : weigh onStrand (↑calls : Multiset Act) = onStrand act)
    (server : after.serverFriendNumber = client.serverFriendNumber)
    (route : after.strandRouteFriend = client.strandRouteFriend)
    (called : ∀ made ∈ calls,
      fits client.serverFriendNumber client.strandRouteFriend made = true)
    (queue : ∀ task ∈ after.strandQueue, task ∈ client.strandQueue ∨ task.inTime = true)
    (log : ∀ effect ∈ after.log, effect ∈ client.log ∨ effect.onItsServer = true) :
    Attributed after (↑calls + others) := by
  constructor
  · have token := before.token
    rw [weigh_cons] at token
    rw [weigh_add, weight, busy]
    exact token
  · intro made member
    rw [server, route]
    rcases Multiset.mem_add.mp member with new | old
    · exact called made (Multiset.mem_coe.mp new)
    · exact before.acts made (Multiset.mem_cons_of_mem old)
  · intro task member
    exact (queue task member).elim (before.queue task) id
  · intro effect member
    exact (log effect member).elim (before.log effect) id

theorem takeTask_attributed (task : Task) (rest : List Task)
    (free : client.strandBusy = false) (queue : client.strandQueue = task :: rest)
    (before : Attributed client (.takeTask ::ₘ others)) :
    Attributed (takeTask { client with strandQueue := rest } task).1
      (↑(takeTask { client with strandQueue := rest } task).2 + others) := by
  have idle : weigh onStrand others = 0 := by
    have token := before.token
    simpa [weigh_cons, onStrand.eq_def, free] using token
  have off := offStrand_of_idle idle
  have inTime := before.queue
  rw [queue] at inTime
  have later : ∀ task ∈ rest, task.inTime = true :=
    fun task member => inTime task (List.mem_cons_of_mem _ member)
  have acts : ∀ (server route : UInt32), ∀ act ∈ others, fits server route act = true :=
    fun server route act member => fits_of_offStrand server route (off act member)
      (before.acts act (Multiset.mem_cons_of_mem member))
  cases task with
  | repin friendNumber =>
      constructor
      · simp [takeTask, idle, free]
      · simpa [takeTask] using acts client.serverFriendNumber friendNumber
      · exact later
      · exact before.log
  | frame friendNumber =>
      by_cases mine : friendNumber = client.strandRouteFriend
      · constructor
        · simp [takeTask, mine, onStrand.eq_def, idle]
        · simpa [takeTask, mine, fits] using acts client.serverFriendNumber client.strandRouteFriend
        · simpa [takeTask, mine] using later
        · simpa [takeTask, mine] using before.log
      · constructor
        · simp [takeTask, mine, idle, free]
        · simpa [takeTask, mine] using acts client.serverFriendNumber client.strandRouteFriend
        · simpa [takeTask, mine] using later
        · simpa [takeTask, mine] using before.log
  | applyKeepaliveDeadVerdict deadFriend about =>
      have inTime : deadFriend = about := by simpa [Task.inTime] using inTime _ List.mem_cons_self
      constructor
      · simp [takeTask, onStrand.eq_def, idle]
      · simpa [takeTask, fits, inTime] using
          acts client.serverFriendNumber client.strandRouteFriend
      · exact later
      · exact before.log
  | _ =>
      constructor
      · simp [takeTask, onStrand.eq_def, idle]
      · simpa [takeTask, fits] using acts client.serverFriendNumber client.strandRouteFriend
      · exact later
      · exact before.log

theorem exec_attributed (choice : Choice) (client : Client) (act : Act) (others : Multiset Act)
    (healthy : ClientHealthy client)
    (allowed : raisedInTime client others (.act choice act))
    (before : Attributed client (act ::ₘ others)) :
    Attributed (exec choice client act).1 (↑(exec choice client act).2 + others) := by
  have fit := before.acts act (Multiset.mem_cons_self act others)
  cases act with
  | post task =>
      refine before.spend rfl rfl rfl rfl (by simp) ?_ (fun _ => .inl)
      intro queued member
      rcases List.mem_append.mp member with old | new
      · exact .inl old
      · rw [List.mem_singleton.mp new]
        exact .inr fit
  | takeTask =>
      simp only [exec]
      split
      · next task rest free queue => exact takeTask_attributed task rest free queue before
      · exact before.spend rfl rfl rfl rfl (by simp) (fun _ => .inl) (fun _ => .inl)
  | finishTask =>
      have token := before.token
      rw [weigh_cons] at token
      constructor
      · cases busy : client.strandBusy <;> simp [onStrand.eq_def, busy] at token ⊢ <;> omega
      · intro made member
        exact before.acts made (Multiset.mem_cons_of_mem (by simpa using member))
      · exact before.queue
      · exact before.log
  | onPeerAlive friendNumber =>
      have routed : friendNumber = client.strandRouteFriend := by simpa [fits] using fit
      simp only [exec]
      split
      · next active found =>
          split
          · next revives =>
              refine before.spend rfl rfl rfl rfl (by simp [fits]) (fun _ => .inl) ?_
              intro effect member
              rcases List.mem_cons.mp member with rfl | old
              · right
                simp [Effect.onItsServer, routed, revives.1]
              · exact .inl old
          · exact before.spend rfl rfl rfl rfl (by simp [fits]) (fun _ => .inl) (fun _ => .inl)
      · exact before.spend rfl rfl rfl rfl (by simp [fits]) (fun _ => .inl) (fun _ => .inl)
  | noteStandbyAlive friendNumber =>
      simp only [exec]
      split
      · exact before.spend rfl rfl rfl rfl (by simp [fits]) (fun _ => .inl) (fun _ => .inl)
      · next index found =>
          split
          · exact before.spend rfl rfl rfl rfl (by simp [fits]) (fun _ => .inl) (fun _ => .inl)
          · next other =>
              refine before.spend rfl rfl rfl rfl (by simp [fits]) (fun _ => .inl) ?_
              intro effect member
              rcases List.mem_cons.mp member with rfl | old
              · right
                obtain ⟨inside, same, -⟩ := List.findIdx?_eq_some_iff_getElem.mp found
                have same : client.endpoints[index].friendNumber = friendNumber := by
                  simpa using same
                simp [Effect.onItsServer, inside, same, other]
              · exact .inl old
  | markDead deadFriend about =>
      have pinned : deadFriend = about := by simpa [fits] using fit
      simp only [exec]
      split
      · next active found =>
          split
          · exact before.spend rfl rfl rfl rfl (by simp [fits]) (fun _ => .inl) (fun _ => .inl)
          · next holds =>
              have judged : active.friendNumber = about := by
                rw [← pinned]
                exact not_not.mp (not_or.mp holds).1
              have server : about = client.serverFriendNumber := by
                have pinned := healthy.pinned
                rw [found] at pinned
                rw [← judged]
                simpa using pinned
              refine before.spend rfl rfl rfl rfl (by simp [fits, server]) (fun _ => .inl) ?_
              intro effect member
              rcases List.mem_cons.mp member with rfl | old
              · right
                simp [Effect.onItsServer, judged]
              · exact .inl old
      · exact before.spend rfl rfl rfl rfl (by simp [fits]) (fun _ => .inl) (fun _ => .inl)
  | switchActiveEndpoint index =>
      have token := before.token
      simp only [exec]
      split
      · exact before.spend rfl rfl rfl rfl (by simp [fits]) (fun _ => .inl) (fun _ => .inl)
      · next endpoint found =>
          split
          · exact before.spend rfl rfl rfl rfl (by simp [fits]) (fun _ => .inl) (fun _ => .inl)
          · -- The switch is the running task, so nothing that knows the old server is.
            have idle : weigh onStrand others = 0 := by
              rw [weigh_cons] at token
              cases busy : client.strandBusy <;> simp [onStrand.eq_def, busy] at token <;> omega
            constructor
            · simpa [weigh_cons, onStrand.eq_def] using token
            · intro made member
              rcases Multiset.mem_add.mp member with new | old
              · rw [List.mem_singleton.mp (Multiset.mem_coe.mp new)]
                rfl
              · exact fits_of_offStrand _ _ (offStrand_of_idle idle made old)
                  (before.acts made (Multiset.mem_cons_of_mem old))
            · intro task member
              rcases List.mem_append.mp member with old | new
              · exact before.queue task old
              · rw [List.mem_singleton.mp new]
                rfl
            · exact before.log
  | closeAll cause =>
      cases cause with
      | switch =>
          simp only [exec]
          split <;> exact before.spend rfl rfl rfl rfl (by simp [fits]) (fun _ => .inl) (fun _ => .inl)
      | verdict about =>
          refine before.spend rfl rfl rfl rfl (by simp [fits]) (fun _ => .inl) ?_
          intro effect member
          rcases List.mem_cons.mp member with rfl | old
          · exact .inr fit
          · exact .inl old
  | onPeerDead about =>
      have inTime : about = client.serverFriendNumber := allowed
      exact before.spend rfl rfl rfl rfl (by simp [fits, Task.inTime, inTime])
        (fun _ => .inl) (fun _ => .inl)
  | notePeerActivity _ | clearLatch _ | applyKeepaliveDeadVerdict _ _ =>
      simp only [exec]
      split
      · exact before.spend rfl rfl rfl rfl (by simpa [fits] using fit) (fun _ => .inl)
          (fun _ => .inl)
      · exact before.spend rfl rfl rfl rfl (by simp [fits]) (fun _ => .inl) (fun _ => .inl)
  | _ =>
      simp only [exec]
      (repeat' split) <;>
        exact before.spend rfl rfl rfl rfl (by simp [fits, Task.inTime]) (fun _ => .inl)
          (fun _ => .inl)

theorem start_attributed (op : Op) (before : Attributed client others) :
    Attributed client (↑(start op) + others) := by
  obtain ⟨token, acts, queue, log⟩ := before
  constructor
  · rw [weigh_add]
    cases op <;> simpa [start, onStrand.eq_def] using token
  · intro made member
    rcases Multiset.mem_add.mp member with new | old
    · cases op <;> simp [start] at new <;> subst new <;> rfl
    · exact acts made old
  · exact queue
  · exact log

variable {config : Config Client Act}

theorem reach_attributed (reached : Reach clientProgram raisedInTime Fresh config) :
    Attributed config.shared config.bag := by
  have known := reached.knowing (fun client _ => ClientHealthy client) fun _ => reach_healthy
  apply known.bag_invariant Attributed
  · rintro client ⟨settings, seed, first, rest, rfl⟩
    constructor <;> simp
  · intro client bag op before _
    exact start_attributed op before
  · intro choice client act others before allowed
    exact exec_attributed choice client act others allowed.2 allowed.1 before

/-- While every dead verdict is raised in time, no verdict meets another server
than its own. The flags of the active server and of each endpoint hold in every
run, see `reach_healthy`. -/
theorem failover_state_kept (reached : Reach clientProgram raisedInTime Fresh config) :
    config.shared.activeIndex < config.shared.endpoints.length ∧
      (config.shared.endpoints[config.shared.activeIndex]?).map Endpoint.online =
        some config.shared.serverOnline ∧
      (∀ endpoint ∈ config.shared.endpoints,
        (endpoint.online = true → endpoint.linkUp = true ∧ endpoint.onlineSince ≠ 0) ∧
          (endpoint.online = false → endpoint.offlineSince ≠ 0)) ∧
      ∀ effect ∈ config.shared.log, effect.onItsServer = true := by
  have healthy := reach_healthy reached
  refine ⟨healthy.inRange, healthy.mirrored, ?_, (reach_attributed reached).log⟩
  intro endpoint member
  obtain ⟨linked, onlineDated, offlineDated⟩ := healthy.sound endpoint member
  exact ⟨fun on => ⟨linked on, onlineDated on⟩, offlineDated⟩

/-- The active server falls silent, is marked offline, and is back with its next frame. -/
theorem failover_state_kept_recovered :
    ∃ config, Reach clientProgram raisedInTime Fresh config ∧ config.shared.serverOnline = true ∧
      config.shared.log = [.marked 7 7, .closed 7 7 [7], .marked 7 7] ∧
      ∀ effect ∈ config.shared.log, effect.onItsServer = true := by
  let schedule : List (Event Op Choice) := List.flatten
    [[.call (.onFriendConnection 7 true)], List.replicate 1 (.run 0 {}),
     [.call .runStrand], List.replicate 5 (.run 1 {}),
     [.call .openTunnel], List.replicate 2 (.run 2 {}),
     [.call .keepaliveTimer], List.replicate 8 (.run 3 {}),
     [.call .runStrand], List.replicate 5 (.run 4 {}),
     [.call (.onLosslessPacket 7 false)], List.replicate 2 (.run 5 {}),
     [.call .runStrand], List.replicate 5 (.run 6 {})]
  have run := Reach.exists_of_replay clientProgram raisedInTime Fresh
    { settings := { keepaliveIntervalSeconds := 30 }
      endpoints := [7].map fun friendNumber =>
        { friendNumber, offlineSince := Choice.now {} }
      serverFriendNumber := 7, strandRouteFriend := 7 } schedule
    (fun config => decide (config.shared.serverOnline = true ∧
      config.shared.log = [.marked 7 7, .closed 7 7 [7], .marked 7 7]))
    ⟨_, {}, 7, [], rfl⟩ (by decide)
  obtain ⟨config, reached, met⟩ := run
  obtain ⟨online, log⟩ := of_decide_eq_true met
  exact ⟨config, reached, online, log, (failover_state_kept reached).2.2.2⟩

/-- The fallback (friend 1) is active and silent. A keepalive tick has looked at the
latch when the failover tick returns to the primary (friend 0), which clears the latch.
The tick then sets it, and the callback finds the primary to be the active server. -/
theorem stale_verdict_meets_successor :
    ∃ config, Reach clientProgram always Fresh config ∧
      config.shared.log = [.closed 1 0 [0], .marked 1 0] ∧
      config.shared.serverOnline = false ∧
      (config.shared.endpoints.map fun endpoint => (endpoint.friendNumber, endpoint.online)) =
        [(0, false), (1, true)] := by
  let schedule : List (Event Op Choice) := List.flatten
    [[.call (.onFriendConnection 1 true)], List.replicate 1 (.run 0 {}),
     [.call .runStrand], List.replicate 3 (.run 1 {}),
     -- The primary was never seen, so the fallback is promoted.
     [.call .failoverTimer], List.replicate 2 (.run 2 { sinceEpoch := 60000000000 }),
     [.call .runStrand], List.replicate 7 (.run 3 { sinceEpoch := 60000000000 }),
     [.call .runStrand, .run 4 {}],
     [.call .openTunnel], List.replicate 2 (.run 5 {}),
     [.call (.onFriendConnection 0 true)], List.replicate 1 (.run 6 {}),
     [.call .runStrand], List.replicate 3 (.run 7 { sinceEpoch := 61000000000 }),
     [.call .keepaliveTimer], List.replicate 4 (.run 8 {}),
     -- The primary has been back for its grace period.
     [.call .failoverTimer], List.replicate 2 (.run 9 { sinceEpoch := 91000000000 }),
     [.call .runStrand], List.replicate 7 (.run 10 { sinceEpoch := 91000000000 }),
     [.call .runStrand, .run 11 {}],
     [.call .openTunnel], List.replicate 2 (.run 12 {}),
     List.replicate 3 (.run 8 {}),
     [.call .runStrand], List.replicate 5 (.run 13 { sinceEpoch := 91000000000 })]
  have run := Reach.exists_of_replay clientProgram always Fresh
    { settings := { keepaliveIntervalSeconds := 30 }
      endpoints := [0, 1].map fun friendNumber =>
        { friendNumber, offlineSince := Choice.now {} }
      serverFriendNumber := 0, strandRouteFriend := 0 } schedule
    (fun config => decide (config.shared.log = [.closed 1 0 [0], .marked 1 0] ∧
      config.shared.serverOnline = false ∧
      (config.shared.endpoints.map fun endpoint => (endpoint.friendNumber, endpoint.online)) =
        [(0, false), (1, true)]))
    ⟨_, {}, 0, [1], rfl⟩ (by decide)
  obtain ⟨config, reached, met⟩ := run
  exact ⟨config, reached, of_decide_eq_true met⟩

end Verdicts

end ToxTunnel.FailoverHealth
