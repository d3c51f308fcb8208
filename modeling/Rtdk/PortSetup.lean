import Rtdk.ConfigRead
import Rtdk.Routing

/-! Setting up the ports: `tsn_configure_lports` (`tsn.c`) and `lport_setup` with
`lport_alloc`, `lqueue_setup`, `lport_port_init` and `lport_setup_queues`
(`lport.c`), for the queues `config_read_from_file` has assigned, and
`pflow_callback_create` of the patch that adds pflow to DPDK.

The calls of DPDK that can fail are listed in the order in which they are made;
whether one fails may depend on all calls before it. Every failure ends in
`rte_exit`. What the configuration fixes for all ports (descriptors, cache and
mbuf size) is passed on and left out here. -/

namespace Rtdk.PortSetup
open Function Rtdk.NetDef Rtdk.Stat Rtdk.ConfigFile Rtdk.ConfigRead Rtdk.Routing

/-! ## State -/

/-- A pool of mbufs, by the arguments it was created with. -/
structure Pool where
  name : String
  isTx : Bool
  id : UInt32
  mbufs : UInt32
  deriving DecidableEq, Repr

/-- The calls of DPDK that can fail. -/
inductive Call
  | queues (pid : UInt16)
  | pool (mp : Pool)
  | txBuffer (id : UInt32)
  | infoGet (pid : UInt16)
  | configure (pid nbQueues : UInt16)
  | adjustDesc (pid : UInt16)
  | macaddrGet (pid : UInt16)
  | setPtypes (pid : UInt16)
  | rxQueue (pid : UInt16) (qid : Nat) (mp : Option Pool)
  | txQueue (pid : UInt16) (qid : Nat)
  | start (pid : UInt16)
  | promiscuous (pid : UInt16)
  | dynfield
  | vid2qid
  | rxCallback (pid qid : UInt16)
  deriving DecidableEq, Repr

structure Lqueue where
  rxMp : Option Pool
  txMp : Option Pool
  txBuffer : Option UInt32
  deriving DecidableEq, Repr

structure LportConf where
  isPromiscuous : Bool
  nbQueues : UInt16
  nbRxMbufs : UInt32
  nbTxMbufs : UInt32
  deriving DecidableEq, Repr

structure Lport where
  inited : Bool
  lqueues : Option (UInt16 → Lqueue)
  lpc : LportConf

structure State where
  lports : UInt16 → Lport
  calls : List Call

/-- `rte_exit`, or an access outside an array or through a null pointer. -/
inductive Stop
  | exit
  | undefined
  deriving DecidableEq, Repr

/-- `lport_info = {0}`. -/
def State.init : State := ⟨fun _ => ⟨false, none, ⟨false, 0, 0, 0⟩⟩, []⟩

def rteMaxEthports : UInt16 := 32
def defaultQueueCount : UInt16 := 16

def lport2pid (id : UInt32) : UInt16 := ((id &&& 0xffff0000) >>> 16).toUInt16

def rteAlign32pow2 (x : UInt32) : UInt32 :=
  let x := x - 1
  let x := x ||| x >>> 1
  let x := x ||| x >>> 2
  let x := x ||| x >>> 4
  let x := x ||| x >>> 8
  let x := x ||| x >>> 16
  x + 1

/-! ## The functions of the source -/

/-- Whether a call succeeds, after those made before it. -/
abbrev Env := List Call → Call → Bool

def attempt (env : Env) (c : Call) (st : State) : Except Stop State :=
  if env st.calls c then .ok { st with calls := st.calls ++ [c] } else .error .exit

def State.setLport (st : State) (pid : UInt16) (lport : Lport) : State :=
  { st with lports := update st.lports pid lport }

def lportAlloc (env : Env) (pid : UInt16) (st : State) : Except Stop State :=
  if pid ≥ rteMaxEthports then .error .undefined
  else if (st.lports pid).inited then .ok st
  else do
    let st ← attempt env (.queues pid) st
    .ok (st.setLport pid ⟨false, some fun _ => ⟨none, none, none⟩, ⟨false, 0, 0, 0⟩⟩)

/-- `lport_queue_get`: `none` is a null pointer. -/
def lportQueueGet (st : State) (id : UInt32) : Except Stop (Option Lqueue) :=
  let pid := lport2pid id
  let qid := lport2qid id
  if pid ≥ rteMaxEthports then .error .exit
  else if qid ≥ (st.lports pid).lpc.nbQueues then .ok none
  else
    match (st.lports pid).lqueues with
    | none => .error .undefined
    | some lqueues =>
      if qid < defaultQueueCount then .ok (some (lqueues qid)) else .error .undefined

/-- A store through the pointer `lport_queue_get` returned. -/
def State.setLqueue (st : State) (id : UInt32) (lqueue : Lqueue) : State :=
  let lport := st.lports (lport2pid id)
  st.setLport (lport2pid id) { lport with
    lqueues := lport.lqueues.map fun lqueues => update lqueues (lport2qid id) lqueue }

def lqueueSetup (env : Env) (name : String) (id : UInt32) (st : State) : Except Stop State := do
  let lpc := (st.lports (lport2pid id)).lpc
  match ← lportQueueGet st id with
  | none => .error .exit
  | some lqueue =>
    let rx : Pool := ⟨name, false, id, rteAlign32pow2 lpc.nbRxMbufs⟩
    let st ← attempt env (.pool rx) st
    let lqueue := { lqueue with rxMp := some rx }
    if lpc.nbTxMbufs ≠ 0 then
      let tx : Pool := ⟨name, true, id, rteAlign32pow2 lpc.nbTxMbufs⟩
      let st ← attempt env (.pool tx) st
      let st ← attempt env (.txBuffer id) st
      .ok (st.setLqueue id { lqueue with txMp := some tx, txBuffer := some id })
    else
      let st ← attempt env (.txBuffer id) st
      .ok (st.setLqueue id { lqueue with txBuffer := some id })

/-- One turn of the loop of `lport_setup_queues`: the pool is the one of `id` for
every queue `q`. -/
def setupQueue (env : Env) (id : UInt32) (st : State) (q : Nat) : Except Stop State := do
  match ← lportQueueGet st id with
  | none => .error .undefined
  | some lqueue =>
    let st ← attempt env (.rxQueue (lport2pid id) q lqueue.rxMp) st
    attempt env (.txQueue (lport2pid id) q) st

def lportSetupQueues (env : Env) (id : UInt32) (st : State) : Except Stop State :=
  (List.range (st.lports (lport2pid id)).lpc.nbQueues.toNat).foldlM (setupQueue env id) st

def lportPortStart (env : Env) (id : UInt32) (st : State) : Except Stop State := do
  let pid := lport2pid id
  let st ← attempt env (.start pid) st
  if (st.lports pid).lpc.isPromiscuous then attempt env (.promiscuous pid) st else .ok st

def lportPortInit (env : Env) (id : UInt32) (st : State) : Except Stop State := do
  let pid := lport2pid id
  if (st.lports pid).inited then .ok st
  else
    let st ← attempt env (.infoGet pid) st
    let st ← attempt env (.configure pid (st.lports pid).lpc.nbQueues) st
    let st ← attempt env (.adjustDesc pid) st
    let st ← attempt env (.macaddrGet pid) st
    let st ← attempt env (.setPtypes pid) st
    let st ← lportSetupQueues env id st
    let st ← lportPortStart env id st
    .ok (st.setLport pid { st.lports pid with inited := true })

def lportSetup (env : Env) (name : String) (id : UInt32) (cfg : LportConf) (st : State) :
    Except Stop State := do
  let st ← lportAlloc env (lport2pid id) st
  let lpc := if cfg.nbQueues = 0 then { cfg with nbQueues := 1 } else cfg
  let st := st.setLport (lport2pid id) { st.lports (lport2pid id) with lpc }
  let st ← lqueueSetup env name id st
  lportPortInit env id st

/-- One use of the macro `_` of `tsn_configure_lports`. -/
structure Setup where
  name : String
  id : UInt32
  rxMbufs : UInt32
  txMbufs : UInt32
  deriving DecidableEq, Repr

/-- `app_config.qinfo[pid].cnt`. -/
def queueCount (queues : Queues) (pid : UInt16) : UInt16 :=
  if pid = 0 then 1 else if pid = 1 then UInt16.ofNat queues.qids.length else 0

/-- `lport_set_defaults` reads `qinfo` before `lport_setup` is called. -/
def runSetup (env : Env) (queues : Queues) (st : State) (s : Setup) : Except Stop State :=
  if lport2pid s.id ≥ rteMaxEthports then .error .undefined
  else
    lportSetup env s.name s.id ⟨false, queueCount queues (lport2pid s.id), s.rxMbufs, s.txMbufs⟩ st

/-- The name and the sizes of a class. -/
def classSetup (ty : FrameType) (id : UInt32) : Setup :=
  match ty with
  | .tsnHigh => ⟨"tsnHigh", id, 2048, 8192⟩
  | .tsnLow => ⟨"tsnLow", id, 2048, 8192⟩
  | .rtc => ⟨"RTC", id, 2048, 2048⟩
  | .rta => ⟨"RTA", id, 2048, 2048⟩
  | .dcp => ⟨"DCP", id, 2048, 2048⟩
  | .lldp => ⟨"LLDP", id, 2048, 2048⟩
  | .udpHigh => ⟨"udpHigh", id, 2048, 2048⟩
  | .udpLow => ⟨"udpLow", id, 2048, 2048⟩
  | .l2 => ⟨"Layer2", id, 2048, 8192⟩

def pktHandlerEnabled (app : Values) : Bool := app .pktHandlerEnabled

/-- The packet handler's ports. `pflow` is the port named `net_pflow`; without one
`port_id` keeps `(uint16_t)-1`. -/
def handlerSetups (app : Values) (pflow : Option UInt16) : List Setup :=
  if pktHandlerEnabled app then
    [⟨"PktHdlrPhy", lportMake 0 0, 131072, 0⟩,
      ⟨"PktHdlr", lportMake (pflow.getD 0xffff) 0, 2048, 16384⟩]
  else []

/-- The uses of the macro whose `*_enabled` is set. -/
def setups (app : Values) (queues : Queues) (pflow : Option UInt16) : List Setup :=
  handlerSetups app pflow ++
    (queueOrder.filter app.enabled).map fun ty => classSetup ty (queues.lportId ty)

/-- `tsn_configure_lports`, up to the last use of the macro. -/
def tsnConfigureLports (env : Env) (app : Values) (queues : Queues) (pflow : Option UInt16) :
    Except Stop State :=
  (setups app queues pflow).foldlM (runSetup env queues) State.init

def pflowMaxQueues : UInt16 := 256

/-- `pflow_conf_t`, with `get_fn` and `cb_fn` set. -/
structure PflowConf where
  phyPid : UInt16
  phyQid : UInt16
  deriving DecidableEq, Repr

/-- `pflow_callback_create`. `pmd` says for which ports pflow has an entry in
`pflow_internals`, which has one for each of the `RTE_MAX_ETHPORTS`. A negative
return value ends the process in the caller. -/
def pflowCallbackCreate (env : Env) (pmd : UInt16 → Bool) (pid : UInt16) (cfg : PflowConf)
    (st : State) : Except Stop State :=
  if pid ≥ rteMaxEthports then .error .undefined
  else if ¬ pmd pid then .error .exit
  else if cfg.phyPid ≥ rteMaxEthports ∨ cfg.phyQid ≥ pflowMaxQueues then .error .exit
  else do
    let st ← attempt env (.rxCallback cfg.phyPid cfg.phyQid) st
    attempt env (.macaddrGet cfg.phyPid) st

/-- `tsn_configure_lports` to its end. -/
def tsnConfigure (env : Env) (pmd : UInt16 → Bool) (app : Values) (queues : Queues)
    (pflow : Option UInt16) : Except Stop State := do
  let st ← tsnConfigureLports env app queues pflow
  let st ← attempt env .dynfield st
  let st ← attempt env .vid2qid st
  let phy := lportMake 0 0
  pflowCallbackCreate env pmd (lport2pid (lportMake (pflow.getD 0xffff) 0))
    ⟨lport2pid phy, lport2qid phy⟩ st

/-! ## One setup -/

/-- The calls of `lport_setup_queues`: every receive queue is given the same pool. -/
def queueCalls (pid : UInt16) (mp : Pool) (qs : List Nat) : List Call :=
  qs.flatMap fun q => [.rxQueue pid q (some mp), .txQueue pid q]

/-- The calls that bring a port up. -/
def portCalls (pid nbQueues : UInt16) (mp : Pool) : List Call :=
  [.infoGet pid, .configure pid nbQueues, .adjustDesc pid, .macaddrGet pid, .setPtypes pid] ++
    queueCalls pid mp (List.range nbQueues.toNat) ++ [.start pid]

def Setup.rxPool (s : Setup) : Pool := ⟨s.name, false, s.id, rteAlign32pow2 s.rxMbufs⟩

def Setup.txPool (s : Setup) : Option Pool :=
  if s.txMbufs ≠ 0 then some ⟨s.name, true, s.id, rteAlign32pow2 s.txMbufs⟩ else none

/-- What a setup leaves in its queue. -/
def Setup.store (s : Setup) (lqueue : Lqueue) : Lqueue :=
  ⟨some s.rxPool, s.txPool.or lqueue.txMp, some s.id⟩

/-- The calls of `lqueue_setup`. -/
def Setup.calls (s : Setup) : List Call :=
  .pool s.rxPool :: s.txPool.toList.map Call.pool ++ [.txBuffer s.id]

/-- A function that ends in a state with `P`, or ends the process after a call that
has failed. -/
def Ends (env : Env) (r : Except Stop State) (P : State → Prop) : Prop :=
  (r = .error .exit ∧ ∃ calls c, env calls c = false) ∨ ∃ st, r = .ok st ∧ P st

theorem Ends.bind {env : Env} {r : Except Stop State} {f : State → Except Stop State}
    {P Q : State → Prop} (hr : Ends env r P) (hf : ∀ st, P st → Ends env (f st) Q) :
    Ends env (r >>= f) Q := by
  rcases hr with ⟨rfl, hfailed⟩ | ⟨st, rfl, hst⟩
  · exact .inl ⟨rfl, hfailed⟩
  · exact hf st hst

theorem Ends.mono {env : Env} {r : Except Stop State} {P Q : State → Prop} (hr : Ends env r P)
    (h : ∀ st, P st → Q st) : Ends env r Q :=
  hr.imp_right fun ⟨st, hst, hp⟩ => ⟨st, hst, h st hp⟩

theorem Ends.ok {env : Env} {st : State} {P : State → Prop} (h : P st) : Ends env (.ok st) P :=
  .inr ⟨st, rfl, h⟩

theorem Ends.ne_undefined {env : Env} {r : Except Stop State} {P : State → Prop}
    (h : Ends env r P) : r ≠ .error .undefined := by
  rintro rfl
  rcases h with ⟨hexit, -⟩ | ⟨st, hst, -⟩
  · cases hexit
  · cases hst

theorem Ends.bind_defined {env : Env} {r : Except Stop State} {f : State → Except Stop State}
    {P : State → Prop} (hr : Ends env r P) (hf : ∀ st, P st → f st ≠ .error .undefined) :
    r >>= f ≠ .error .undefined := by
  rcases hr with ⟨rfl, -⟩ | ⟨st, rfl, hst⟩
  · intro h
    cases h
  · exact hf st hst

/-- Where no call fails the function returns. -/
theorem Ends.returns {r : Except Stop State} {P : State → Prop}
    (h : Ends (fun _ _ => true) r P) : ∃ st, r = .ok st ∧ P st := by
  rcases h with ⟨-, calls, c, hfailed⟩ | hok
  · cases hfailed
  · exact hok

section
variable {env : Env} {st : State} {id : UInt32}

theorem attempt_ends (env : Env) (c : Call) (st : State) :
    Ends env (attempt env c st) (· = { st with calls := st.calls ++ [c] }) := by
  unfold attempt
  split
  · exact .ok rfl
  · rename_i hfailed
    exact .inl ⟨rfl, _, _, Bool.eq_false_iff.mpr hfailed⟩

theorem lportQueueGet_ok (hpid : lport2pid id < rteMaxEthports)
    (hqid : lport2qid id < (st.lports (lport2pid id)).lpc.nbQueues)
    (hcount : (st.lports (lport2pid id)).lpc.nbQueues ≤ defaultQueueCount)
    {lqueues : UInt16 → Lqueue} (hq : (st.lports (lport2pid id)).lqueues = some lqueues) :
    lportQueueGet st id = .ok (some (lqueues (lport2qid id))) := by
  have hdefault : lport2qid id < defaultQueueCount := by
    rw [UInt16.lt_iff_toNat_lt] at hqid ⊢
    rw [UInt16.le_iff_toNat_le] at hcount
    omega
  unfold lportQueueGet
  simp only [if_neg (UInt16.not_le.mpr hpid), if_neg (UInt16.not_le.mpr hqid), hq, if_pos hdefault]

theorem lqueueSetup_ends {s : Setup} {lqueue : Lqueue} {lpc : LportConf}
    (hget : lportQueueGet st s.id = .ok (some lqueue))
    (hlpc : (st.lports (lport2pid s.id)).lpc = lpc) (hrx : lpc.nbRxMbufs = s.rxMbufs)
    (htx : lpc.nbTxMbufs = s.txMbufs) :
    Ends env (lqueueSetup env s.name s.id st)
      (· = ({ st with calls := st.calls ++ s.calls } : State).setLqueue s.id (s.store lqueue)) := by
  unfold lqueueSetup
  rw [hget]
  simp only [hlpc, hrx, htx]
  refine (attempt_ends env _ st).bind fun st₁ h₁ => ?_
  subst h₁
  split
  · rename_i hne
    have hpool : s.txPool = some ⟨s.name, true, s.id, rteAlign32pow2 s.txMbufs⟩ := if_pos hne
    refine (attempt_ends env _ _).bind fun st₂ h₂ => ?_
    subst h₂
    refine (attempt_ends env _ _).bind fun st₃ h₃ => ?_
    subst h₃
    refine .ok ?_
    simp only [Setup.calls, Setup.store, hpool, List.append_assoc]
    rfl
  · rename_i hne
    have hpool : s.txPool = none := if_neg hne
    refine (attempt_ends env _ _).bind fun st₂ h₂ => ?_
    subst h₂
    refine .ok ?_
    simp only [Setup.calls, Setup.store, hpool, List.append_assoc]
    rfl

theorem setupQueues_ends {lqueue : Lqueue} {mp : Pool} (qs : List Nat)
    (hget : lportQueueGet st id = .ok (some lqueue)) (hmp : lqueue.rxMp = some mp) :
    Ends env (qs.foldlM (setupQueue env id) st)
      (· = { st with calls := st.calls ++ queueCalls (lport2pid id) mp qs }) := by
  induction qs generalizing st with
  | nil => exact .ok (by rw [queueCalls, List.flatMap_nil, List.append_nil])
  | cons q qs ih =>
    rw [List.foldlM_cons]
    refine Ends.bind (P := (· = { st with
      calls := st.calls ++ queueCalls (lport2pid id) mp [q] })) ?_ fun st₁ h₁ => ?_
    · unfold setupQueue
      rw [hget]
      show Ends env (attempt env (.rxQueue (lport2pid id) q lqueue.rxMp) st >>=
        attempt env (.txQueue (lport2pid id) q)) _
      rw [hmp]
      refine (attempt_ends env _ st).bind fun st₁ h₁ => ?_
      subst h₁
      refine (attempt_ends env _ _).mono fun st₂ h₂ => ?_
      rw [h₂, List.append_assoc]
      rfl
    · subst h₁
      refine (@ih { st with calls := st.calls ++ queueCalls (lport2pid id) mp [q] } hget).mono
        fun st₂ h₂ => ?_
      rw [h₂]
      simp [queueCalls]

theorem lportSetupQueues_ends {lqueue : Lqueue} {mp : Pool}
    (hget : lportQueueGet st id = .ok (some lqueue)) (hmp : lqueue.rxMp = some mp)
    (calls : List Call) :
    Ends env (lportSetupQueues env id { st with calls := calls })
      (· = { st with
        calls := calls ++ queueCalls (lport2pid id) mp
          (List.range (st.lports (lport2pid id)).lpc.nbQueues.toNat) }) :=
  setupQueues_ends _ hget hmp

theorem lportPortStart_ends (hflag : (st.lports (lport2pid id)).lpc.isPromiscuous = false)
    (calls : List Call) :
    Ends env (lportPortStart env id { st with calls := calls })
      (· = { st with calls := calls ++ [.start (lport2pid id)] }) := by
  unfold lportPortStart
  refine (attempt_ends env _ _).bind fun st₁ h₁ => ?_
  subst h₁
  simp only [hflag]
  exact .ok rfl

theorem lportPortInit_ends {lqueue : Lqueue} {mp : Pool}
    (hget : lportQueueGet st id = .ok (some lqueue)) (hmp : lqueue.rxMp = some mp)
    (hflag : (st.lports (lport2pid id)).lpc.isPromiscuous = false) :
    Ends env (lportPortInit env id st) (fun st' =>
      st'.lports = update st.lports (lport2pid id)
        { st.lports (lport2pid id) with inited := true } ∧
      st'.calls = st.calls ++ if (st.lports (lport2pid id)).inited then []
        else portCalls (lport2pid id) (st.lports (lport2pid id)).lpc.nbQueues mp) := by
  unfold lportPortInit
  by_cases hinited : (st.lports (lport2pid id)).inited = true
  · simp only [if_pos hinited]
    refine .ok ⟨?_, (List.append_nil _).symm⟩
    rw [eq_comm, update_eq_self_iff, ← hinited]
  · simp only [if_neg hinited]
    refine (attempt_ends env _ st).bind fun st₁ h₁ => ?_
    subst h₁
    refine (attempt_ends env _ _).bind fun st₂ h₂ => ?_
    subst h₂
    refine (attempt_ends env _ _).bind fun st₃ h₃ => ?_
    subst h₃
    refine (attempt_ends env _ _).bind fun st₄ h₄ => ?_
    subst h₄
    refine (attempt_ends env _ _).bind fun st₅ h₅ => ?_
    subst h₅
    refine (lportSetupQueues_ends hget hmp _).bind fun st₆ h₆ => ?_
    subst h₆
    refine (lportPortStart_ends hflag _).bind fun st₇ h₇ => ?_
    subst h₇
    refine .ok ⟨rfl, ?_⟩
    simp [portCalls, State.setLport]

/-- The queues of a port, empty ones if it is not up yet. -/
def Lport.opened (lport : Lport) : UInt16 → Lqueue :=
  if lport.inited then lport.lqueues.getD fun _ => ⟨none, none, none⟩ else fun _ => ⟨none, none, none⟩

theorem lportAlloc_ends {pid : UInt16} (hpid : pid < rteMaxEthports)
    (hqueues : (st.lports pid).inited = true → (st.lports pid).lqueues ≠ none) :
    Ends env (lportAlloc env pid st) (fun st' =>
      (∃ lpc, st'.lports = update st.lports pid
        ⟨(st.lports pid).inited, some (st.lports pid).opened, lpc⟩) ∧
      st'.calls = st.calls ++ if (st.lports pid).inited then [] else [.queues pid]) := by
  unfold lportAlloc
  rw [if_neg (UInt16.not_le.mpr hpid)]
  by_cases hinited : (st.lports pid).inited = true
  · rw [if_pos hinited]
    obtain ⟨lqueues, hq⟩ := Option.ne_none_iff_exists'.mp (hqueues hinited)
    refine .ok ⟨⟨(st.lports pid).lpc, ?_⟩, by rw [if_pos hinited, List.append_nil]⟩
    rw [eq_comm, update_eq_self_iff, Lport.opened, if_pos hinited, hq, Option.getD_some, ← hq]
  · rw [if_neg hinited]
    refine (attempt_ends env _ st).bind fun st₁ h₁ => ?_
    subst h₁
    refine .ok ⟨⟨⟨false, 0, 0, 0⟩, ?_⟩, by rw [if_neg hinited]; rfl⟩
    rw [Lport.opened, if_neg hinited, Bool.eq_false_iff.mpr hinited]
    rfl

/-- The number of queues a port is configured with. -/
def lportQueues (queues : Queues) (pid : UInt16) : UInt16 :=
  if queueCount queues pid = 0 then 1 else queueCount queues pid

def setupConf (queues : Queues) (s : Setup) : LportConf :=
  ⟨false, lportQueues queues (lport2pid s.id), s.rxMbufs, s.txMbufs⟩

theorem runSetup_ends {s : Setup} {queues : Queues} (hpid : lport2pid s.id < rteMaxEthports)
    (hqid : lport2qid s.id < lportQueues queues (lport2pid s.id))
    (hcount : lportQueues queues (lport2pid s.id) ≤ defaultQueueCount)
    (hqueues : (st.lports (lport2pid s.id)).inited = true →
      (st.lports (lport2pid s.id)).lqueues ≠ none) :
    Ends env (runSetup env queues st s) (fun st' =>
      st'.lports = update st.lports (lport2pid s.id) ⟨true,
        some (update (st.lports (lport2pid s.id)).opened (lport2qid s.id)
          (s.store ((st.lports (lport2pid s.id)).opened (lport2qid s.id)))),
        setupConf queues s⟩ ∧
      st'.calls = st.calls ++
        (if (st.lports (lport2pid s.id)).inited then [] else [.queues (lport2pid s.id)]) ++ s.calls ++
        if (st.lports (lport2pid s.id)).inited then []
        else portCalls (lport2pid s.id) (lportQueues queues (lport2pid s.id)) s.rxPool) := by
  unfold runSetup lportSetup
  rw [if_neg (UInt16.not_le.mpr hpid)]
  refine (lportAlloc_ends hpid hqueues).bind fun st₁ h₁ => ?_
  obtain ⟨⟨lpc, hlports⟩, hcalls⟩ := h₁
  have hconf : (if queueCount queues (lport2pid s.id) = 0 then
      (⟨false, 1, s.rxMbufs, s.txMbufs⟩ : LportConf)
      else ⟨false, queueCount queues (lport2pid s.id), s.rxMbufs, s.txMbufs⟩) =
      setupConf queues s := by
    unfold setupConf lportQueues
    split <;> rfl
  simp only [hconf]
  have hself : st₁.lports (lport2pid s.id) =
      ⟨(st.lports (lport2pid s.id)).inited, some (st.lports (lport2pid s.id)).opened, lpc⟩ := by
    rw [hlports, update_self]
  let st₂ := st₁.setLport (lport2pid s.id)
    { st₁.lports (lport2pid s.id) with lpc := setupConf queues s }
  have hport₂ : st₂.lports (lport2pid s.id) = ⟨(st.lports (lport2pid s.id)).inited,
      some (st.lports (lport2pid s.id)).opened, setupConf queues s⟩ := by
    show update st₁.lports _ _ _ = _
    rw [update_self, hself]
  have hget₂ : lportQueueGet st₂ s.id =
      .ok (some ((st.lports (lport2pid s.id)).opened (lport2qid s.id))) :=
    lportQueueGet_ok hpid (by rw [hport₂]; exact hqid) (by rw [hport₂]; exact hcount)
      (by rw [hport₂])
  refine (lqueueSetup_ends hget₂ (by rw [hport₂]) rfl rfl).bind fun st₃ h₃ => ?_
  have hport₃ : st₃.lports (lport2pid s.id) = ⟨(st.lports (lport2pid s.id)).inited,
      some (update (st.lports (lport2pid s.id)).opened (lport2qid s.id)
        (s.store ((st.lports (lport2pid s.id)).opened (lport2qid s.id)))),
      setupConf queues s⟩ := by
    rw [h₃]
    show update st₂.lports _ _ _ = _
    rw [update_self]
    show (⟨(st₂.lports _).inited, (st₂.lports _).lqueues.map _, (st₂.lports _).lpc⟩ : Lport) = _
    rw [hport₂]
    rfl
  have hget₃ : lportQueueGet st₃ s.id =
      .ok (some (update (st.lports (lport2pid s.id)).opened (lport2qid s.id)
        (s.store ((st.lports (lport2pid s.id)).opened (lport2qid s.id))) (lport2qid s.id))) :=
    lportQueueGet_ok hpid (by rw [hport₃]; exact hqid) (by rw [hport₃]; exact hcount)
      (by rw [hport₃])
  rw [update_self] at hget₃
  refine (lportPortInit_ends hget₃ rfl (by rw [hport₃]; rfl)).mono fun st₄ h₄ => ?_
  obtain ⟨hlports₄, hcalls₄⟩ := h₄
  rw [hport₃] at hlports₄ hcalls₄
  constructor
  · rw [hlports₄, h₃]
    show update (update (update st₁.lports _ _) _ _) _ _ = _
    rw [update_idem, update_idem, hlports, update_idem]
  · rw [hcalls₄, h₃]
    show st₁.calls ++ s.calls ++ _ = _
    rw [hcalls]
    rfl

end

/-! ## All setups -/

/-- The calls that are about the device of a port. -/
def Call.isDevice (pid : UInt16) : Call → Bool
  | .infoGet p | .configure p _ | .adjustDesc p | .macaddrGet p | .setPtypes p => decide (p = pid)
  | .rxQueue p _ _ | .txQueue p _ | .start p | .promiscuous p => decide (p = pid)
  | .rxCallback p _ => decide (p = pid)
  | .queues _ | .pool _ | .txBuffer _ | .dynfield | .vid2qid => false

def Setup.pid (s : Setup) : UInt16 := lport2pid s.id
def Setup.qid (s : Setup) : UInt16 := lport2qid s.id

/-- What the ports are like after some setups. -/
structure Ready (queues : Queues) (done : List Setup) (st : State) : Prop where
  up : ∀ pid, (st.lports pid).inited = true ↔ ∃ s ∈ done, s.pid = pid
  port : ∀ pid, (st.lports pid).inited = true →
    (st.lports pid).lpc.nbQueues = lportQueues queues pid ∧ (st.lports pid).lqueues ≠ none
  stored : ∀ as s bs, done = as ++ s :: bs → (∀ s' ∈ bs, s'.pid = s.pid → s'.qid ≠ s.qid) →
    s.txMbufs ≠ 0 → ∃ lqueues, (st.lports s.pid).lqueues = some lqueues ∧
      lqueues s.qid = ⟨some s.rxPool, s.txPool, some s.id⟩
  device : ∀ pid, st.calls.filter (Call.isDevice pid) =
    match done.find? fun s => decide (s.pid = pid) with
    | none => []
    | some s => portCalls pid (lportQueues queues pid) s.rxPool

theorem ready_init (queues : Queues) : Ready queues [] State.init where
  up pid := by simp [State.init]
  port pid h := by cases h
  stored as s bs h := by simp at h
  device pid := rfl

theorem setup_calls_device (s : Setup) (pid : UInt16) : s.calls.filter (Call.isDevice pid) = [] := by
  rw [List.filter_eq_nil_iff]
  intro c hc
  simp only [Setup.calls, List.mem_append, List.mem_cons, List.mem_map, List.not_mem_nil,
    or_false] at hc
  rcases hc with (rfl | ⟨mp, -, rfl⟩) | rfl <;> exact Bool.false_ne_true

theorem portCalls_device (pid pid' nbQueues : UInt16) (mp : Pool) :
    (portCalls pid nbQueues mp).filter (Call.isDevice pid') =
      if pid = pid' then portCalls pid nbQueues mp else [] := by
  have hall : ∀ c ∈ portCalls pid nbQueues mp, Call.isDevice pid' c = decide (pid = pid') := by
    intro c hc
    simp only [portCalls, queueCalls, List.mem_append, List.mem_cons, List.mem_flatMap,
      List.not_mem_nil, or_false] at hc
    rcases hc with ((rfl | rfl | rfl | rfl | rfl) | ⟨q, -, rfl | rfl⟩) | rfl <;> rfl
  rw [List.filter_congr hall]
  by_cases hpid : pid = pid'
  · simp [hpid]
  · simp [hpid]

variable {env : Env} {queues : Queues} {done : List Setup} {st : State}

/-- A setup names a queue its port has. -/
structure Setup.Fits (queues : Queues) (s : Setup) : Prop where
  pid_lt : s.pid < rteMaxEthports
  qid_lt : s.qid < lportQueues queues s.pid
  count_le : lportQueues queues s.pid ≤ defaultQueueCount

theorem runSetup_ready (hr : Ready queues done st) {s : Setup} (hs : s.Fits queues) :
    Ends env (runSetup env queues st s) (Ready queues (done ++ [s])) := by
  refine (runSetup_ends hs.pid_lt hs.qid_lt hs.count_le fun h => (hr.port _ h).2).mono
    fun st' ⟨hlports, hcalls⟩ => ?_
  have hother {pid : UInt16} (hpid : pid ≠ s.pid) : st'.lports pid = st.lports pid := by
    rw [hlports]
    exact update_of_ne hpid ..
  have hself : st'.lports s.pid = ⟨true, some (update (st.lports s.pid).opened s.qid
      (s.store ((st.lports s.pid).opened s.qid))), setupConf queues s⟩ := by
    rw [hlports]
    exact update_self ..
  refine ⟨fun pid => ?_, fun pid hpid => ?_, fun as t bs hdone hlast htx => ?_, fun pid => ?_⟩
  · by_cases hpid : pid = s.pid
    · subst hpid
      rw [hself]
      simp
    · rw [hother hpid, hr.up pid]
      simp [Ne.symm hpid]
  · by_cases hp : pid = s.pid
    · subst hp
      rw [hself]
      exact ⟨rfl, by simp⟩
    · rw [hother hp] at hpid ⊢
      exact hr.port pid hpid
  · rcases List.eq_nil_or_concat bs with rfl | ⟨bs', last, rfl⟩
    · obtain ⟨-, heq⟩ := List.append_inj' hdone rfl
      cases heq
      refine ⟨_, congrArg Lport.lqueues hself, ?_⟩
      have hpool : s.txPool = some ⟨s.name, true, s.id, rteAlign32pow2 s.txMbufs⟩ := if_pos htx
      rw [update_self, Setup.store, hpool]
      rfl
    · rw [List.concat_eq_append] at hdone hlast
      rw [← List.cons_append, ← List.append_assoc] at hdone
      obtain ⟨hbefore, heq⟩ := List.append_inj' hdone rfl
      cases heq
      obtain ⟨lqueues, hq, hstored⟩ := hr.stored as t bs' hbefore
        (fun s' hs' => hlast s' (List.mem_append_left _ hs')) htx
      by_cases hpid : t.pid = s.pid
      · have hinited := (hr.up t.pid).mpr ⟨t, hbefore ▸ List.mem_append_right _ List.mem_cons_self, rfl⟩
        have hqid := hlast s (List.mem_append_right _ (List.mem_singleton_self s)) hpid.symm
        rw [hpid] at hq hinited
        refine ⟨update (st.lports s.pid).opened s.qid (s.store ((st.lports s.pid).opened s.qid)),
          by rw [hpid, hself], ?_⟩
        rw [update_of_ne (Ne.symm hqid), Lport.opened, if_pos hinited, hq, Option.getD_some]
        exact hstored
      · exact ⟨lqueues, (congrArg Lport.lqueues (hother hpid)).trans hq, hstored⟩
  · have hnew : st'.calls.filter (Call.isDevice pid) = st.calls.filter (Call.isDevice pid) ++
        if (st.lports s.pid).inited = true then [] else if s.pid = pid then
          portCalls s.pid (lportQueues queues s.pid) s.rxPool else [] := by
      rw [hcalls, List.filter_append, List.filter_append, List.filter_append,
        setup_calls_device]
      by_cases hinited : (st.lports s.pid).inited = true
      · have hinited' : (st.lports (lport2pid s.id)).inited = true := hinited
        simp [hinited, hinited']
      · have hinited' : ¬ (st.lports (lport2pid s.id)).inited = true := hinited
        have hqueues : [Call.queues (lport2pid s.id)].filter (Call.isDevice pid) = [] := rfl
        rw [if_neg hinited', if_neg hinited', if_neg hinited, portCalls_device, hqueues,
          List.append_nil, List.append_nil]
        rfl
    rw [hnew, hr.device pid, List.find?_append]
    cases hfind : done.find? fun s => decide (s.pid = pid) with
    | some t =>
      have ht := List.find?_some hfind
      rw [decide_eq_true_eq] at ht
      have hup := (hr.up pid).mpr ⟨t, List.mem_of_find?_eq_some hfind, ht⟩
      rw [Option.some_or]
      by_cases hpid : s.pid = pid
      · rw [hpid, if_pos hup, List.append_nil]
      · rw [if_neg hpid, ite_self, List.append_nil]
    | none =>
      rw [Option.none_or]
      by_cases hpid : s.pid = pid
      · have hdown : ¬ (st.lports s.pid).inited = true := by
          rw [hr.up, hpid]
          rintro ⟨t, ht, htpid⟩
          exact absurd (decide_eq_true htpid) (List.find?_eq_none.mp hfind t ht)
        rw [if_neg hdown, if_pos hpid, List.find?_cons_of_pos (by simpa using hpid), hpid]
        rfl
      · rw [if_neg hpid, ite_self, List.find?_cons_of_neg (by simpa using hpid)]
        rfl

theorem foldSetups_ready (hr : Ready queues done st) {ss : List Setup}
    (hss : ∀ s ∈ ss, s.Fits queues) :
    Ends env (ss.foldlM (runSetup env queues) st) (Ready queues (done ++ ss)) := by
  induction ss generalizing done st with
  | nil =>
    rw [List.append_nil]
    exact .ok hr
  | cons s ss ih =>
    rw [List.foldlM_cons]
    refine (runSetup_ready hr (hss s List.mem_cons_self)).bind fun st' hst' => ?_
    have hrest := ih hst' fun t ht => hss t (List.mem_cons_of_mem s ht)
    rw [List.append_assoc] at hrest
    exact hrest

/-! ## The setups of a configuration -/

theorem mask_high (i : Fin 16) : (0xffff0000#32)[16 + i.val] = true := by
  revert i
  decide

theorem lport2pid_lportMake (pid qid : UInt16) : lport2pid (lportMake pid qid) = pid := by
  apply UInt16.toBitVec_inj.mp
  simp only [lport2pid, lportMake, UInt32.toBitVec_toUInt16, UInt32.toBitVec_or,
    UInt32.toBitVec_and, UInt32.toBitVec_shiftRight, UInt32.toBitVec_shiftLeft,
    UInt16.toBitVec_toUInt32]
  ext i hi
  have hhigh := mask_high ⟨i, hi⟩
  have hwide : 16 + i < 32 := by omega
  have hbit : i < 32 := by omega
  have hlow : ¬ 16 + i < 16 := by omega
  simp only at hhigh
  simp [hhigh, hwide, hbit, hlow]
  exact BitVec.getLsbD_eq_getElem hi

theorem rank_lt {app : Values} {tys : List FrameType} {ty : FrameType} (hty : ty ∈ tys)
    (hen : app.enabled ty = true) : rank app tys ty < tys.countP app.enabled := by
  induction tys with
  | nil => cases hty
  | cons x tys ih =>
    by_cases heq : x = ty
    · subst heq
      rw [rank, List.takeWhile_cons_of_neg (by simp), List.countP_nil,
        List.countP_cons_of_pos hen]
      omega
    · have hin := ih ((List.mem_cons.mp hty).resolve_left (Ne.symm heq))
      rw [rank] at hin ⊢
      rw [List.takeWhile_cons_of_pos (by simpa using heq), List.countP_cons, List.countP_cons]
      omega

variable {app : Values} {pflow : Option UInt16}

theorem queueCount_classes (app : Values) : queueCount (assignQueues app) 1 =
    UInt16.ofNat (queueOrder.countP app.enabled + 1) := by
  rw [queueCount, if_neg (by decide), if_pos rfl, (assignQueues_consecutive app).qids,
    List.length_map, List.length_range]

theorem lportQueues_classes (app : Values) :
    (lportQueues (assignQueues app) 1).toNat = queueOrder.countP app.enabled + 1 := by
  have hle : queueOrder.countP app.enabled ≤ 9 := List.countP_le_length
  have hcount : (queueCount (assignQueues app) 1).toNat = queueOrder.countP app.enabled + 1 := by
    rw [queueCount_classes, UInt16.toNat_ofNat']
    omega
  rw [lportQueues, if_neg, hcount]
  intro h
  rw [h] at hcount
  simp at hcount

theorem class_lportId {ty : FrameType} (hen : app.enabled ty = true) :
    (assignQueues app).lportId ty = lportMake 1 (UInt16.ofNat (rank app queueOrder ty + 1)) := by
  rw [(assignQueues_consecutive app).lportId, if_pos hen]

theorem mem_queueOrder (ty : FrameType) : ty ∈ queueOrder := by
  cases ty <;> decide

theorem classSetup_id (ty : FrameType) (id : UInt32) : (classSetup ty id).id = id := by
  cases ty <;> rfl

theorem class_fits {ty : FrameType} (hen : app.enabled ty = true) :
    (classSetup ty ((assignQueues app).lportId ty)).Fits (assignQueues app) := by
  have hle : queueOrder.countP app.enabled ≤ 9 := List.countP_le_length
  have hrank := rank_lt (mem_queueOrder ty) hen
  have hpid : (classSetup ty ((assignQueues app).lportId ty)).pid = 1 := by
    rw [Setup.pid, classSetup_id, class_lportId hen, lport2pid_lportMake]
  constructor
  · rw [hpid]
    decide
  · rw [hpid, Setup.qid, classSetup_id, class_lportId hen, lport2qid_lportMake,
      UInt16.lt_iff_toNat_lt, lportQueues_classes, UInt16.toNat_ofNat']
    omega
  · rw [hpid, UInt16.le_iff_toNat_le, lportQueues_classes]
    show _ ≤ 16
    omega

/-- The packet handler has the port of pflow, and that port is one. -/
def Found (app : Values) (pflow : Option UInt16) : Prop :=
  pktHandlerEnabled app = true → ∃ p, pflow = some p ∧ p < rteMaxEthports

theorem handler_fits (queues : Queues) {name : String} {pid : UInt16} (hpid : pid < rteMaxEthports)
    (hcount : lportQueues queues pid ≤ defaultQueueCount) (rxMbufs txMbufs : UInt32) :
    (Setup.mk name (lportMake pid 0) rxMbufs txMbufs).Fits queues := by
  have hport : (Setup.mk name (lportMake pid 0) rxMbufs txMbufs).pid = pid :=
    lport2pid_lportMake pid 0
  refine ⟨by rw [hport]; exact hpid, ?_, by rw [hport]; exact hcount⟩
  rw [hport]
  show lport2qid (lportMake pid 0) < _
  rw [lport2qid_lportMake, lportQueues]
  split
  · decide
  · rename_i hne
    rw [UInt16.lt_iff_toNat_lt]
    exact Nat.pos_of_ne_zero fun h => hne (UInt16.toNat_inj.mp h)

theorem lportQueues_le (app : Values) (pid : UInt16) :
    lportQueues (assignQueues app) pid ≤ defaultQueueCount := by
  by_cases hpid : pid = 1
  · have hle : queueOrder.countP app.enabled ≤ 9 := List.countP_le_length
    rw [hpid, UInt16.le_iff_toNat_le, lportQueues_classes]
    show _ ≤ 16
    omega
  · rw [lportQueues, queueCount, if_neg hpid]
    by_cases hzero : pid = 0
    · rw [if_pos hzero]
      decide
    · rw [if_neg hzero]
      decide

theorem setups_fit (hfound : Found app pflow) :
    ∀ s ∈ setups app (assignQueues app) pflow, s.Fits (assignQueues app) := by
  intro s hs
  rcases List.mem_append.mp hs with hs | hs
  · unfold handlerSetups at hs
    split at hs
    · rename_i hen
      obtain ⟨p, rfl, hp⟩ := hfound hen
      simp only [List.mem_cons, List.not_mem_nil, or_false] at hs
      rcases hs with rfl | rfl
      · exact handler_fits _ (by decide) (lportQueues_le app _) _ _
      · exact handler_fits _ hp (lportQueues_le app _) _ _
    · cases hs
  · obtain ⟨ty, hty, rfl⟩ := List.mem_map.mp hs
    exact class_fits (List.mem_filter.mp hty).2

theorem tsnConfigureLports_ends (env : Env) (hfound : Found app pflow) :
    Ends env (tsnConfigureLports env app (assignQueues app) pflow)
      (Ready (assignQueues app) (setups app (assignQueues app) pflow)) :=
  foldSetups_ready (ready_init _) (setups_fit hfound)

/-- Without a port for pflow the second setup reads outside `qinfo`. -/
theorem runSetup_lost {s : Setup} (hpid : ¬ s.pid < rteMaxEthports) :
    runSetup env queues st s = .error .undefined :=
  if_pos (UInt16.not_lt.mp hpid)

theorem found_of_ok (h : tsnConfigureLports env app (assignQueues app) pflow = .ok st) :
    Found app pflow := by
  intro hen
  rw [tsnConfigureLports, setups, handlerSetups, if_pos hen, List.cons_append, List.foldlM_cons] at h
  obtain ⟨st₁, -, h⟩ := Runs.bind_ok_iff.mp h
  rw [List.cons_append, List.foldlM_cons] at h
  obtain ⟨st₂, h, -⟩ := Runs.bind_ok_iff.mp h
  have hpid : pflow.getD 0xffff < rteMaxEthports := by
    by_contra hlost
    rw [runSetup_lost (by rw [Setup.pid, lport2pid_lportMake]; exact hlost)] at h
    cases h
  cases pflow with
  | none => exact absurd hpid (by decide)
  | some p => exact ⟨p, rfl, hpid⟩

/-! ## Results -/

theorem class_qid_ne {ty ty' : FrameType} (hen : app.enabled ty = true)
    (hen' : app.enabled ty' = true) (hne : ty' ≠ ty) :
    lport2qid ((assignQueues app).lportId ty') ≠ lport2qid ((assignQueues app).lportId ty) := by
  intro heq
  obtain ⟨-, -, hinj⟩ := maxQueue_fold app queueOrder (by decide)
    (q := ⟨[0], 1, fun _ => lportInvalid⟩) (by decide)
  exact hne (hinj ty' (mem_queueOrder ty') ty (mem_queueOrder ty) hen' hen heq)

theorem classSetup_txMbufs (ty : FrameType) (id : UInt32) : (classSetup ty id).txMbufs ≠ 0 := by
  cases ty <;> simp [classSetup]

/-- The setup of a class, and those after it. -/
theorem setups_split (pflow : Option UInt16) {ty : FrameType} (hen : app.enabled ty = true) :
    ∃ (as : List Setup) (after : List FrameType), setups app (assignQueues app) pflow =
        as ++ classSetup ty ((assignQueues app).lportId ty) ::
          after.map (fun ty => classSetup ty ((assignQueues app).lportId ty)) ∧
      ∀ ty' ∈ after, ty' ≠ ty ∧ app.enabled ty' = true := by
  have hmem : ty ∈ queueOrder.filter app.enabled := List.mem_filter.mpr ⟨mem_queueOrder ty, hen⟩
  obtain ⟨before, after, hsplit⟩ := List.append_of_mem hmem
  have hnodup : (queueOrder.filter app.enabled).Nodup := List.Nodup.filter _ (by decide)
  rw [hsplit] at hnodup
  have hafter := (List.nodup_cons.mp (List.nodup_append.mp hnodup).2.1).1
  refine ⟨handlerSetups app pflow ++
    before.map fun ty => classSetup ty ((assignQueues app).lportId ty), after, ?_,
    fun ty' hty' => ⟨?_, ?_⟩⟩
  · rw [setups, hsplit, List.map_append, List.map_cons, ← List.append_assoc]
  · rintro rfl
    exact hafter hty'
  · have hin : ty' ∈ queueOrder.filter app.enabled := by
      rw [hsplit]
      exact List.mem_append_right _ (List.mem_cons_of_mem _ hty')
    exact (List.mem_filter.mp hin).2

theorem ready_of_ok (h : tsnConfigureLports env app (assignQueues app) pflow = .ok st) :
    Ready (assignQueues app) (setups app (assignQueues app) pflow) st := by
  rcases tsnConfigureLports_ends env (found_of_ok h) with ⟨hexit, -⟩ | ⟨st', hst', hr⟩
  · rw [h] at hexit
    cases hexit
  · rw [h] at hst'
    cases hst'
    exact hr

/-- **Queues.** After `tsn_configure_lports` each enabled class has the queue its
`lport_id` names, with pools and a transmit buffer of its own. -/
theorem lports_ready {env : Env} {app : Values} {pflow : Option UInt16} {st : State}
    (h : tsnConfigureLports env app (assignQueues app) pflow = .ok st) {ty : FrameType}
    (hen : app.enabled ty = true) :
    (classSetup ty ((assignQueues app).lportId ty)).txPool ≠ none ∧
      lportQueueGet st ((assignQueues app).lportId ty) =
        .ok (some ⟨some (classSetup ty ((assignQueues app).lportId ty)).rxPool,
          (classSetup ty ((assignQueues app).lportId ty)).txPool,
          some ((assignQueues app).lportId ty)⟩) := by
  have hr := ready_of_ok h
  have hfits := class_fits hen
  obtain ⟨as, after, hsplit, hafter⟩ := setups_split pflow hen
  have htx := classSetup_txMbufs ty ((assignQueues app).lportId ty)
  have hlast : ∀ s' ∈ after.map fun ty => classSetup ty ((assignQueues app).lportId ty),
      s'.qid ≠ (classSetup ty ((assignQueues app).lportId ty)).qid := by
    intro s' hs'
    obtain ⟨ty', hty', rfl⟩ := List.mem_map.mp hs'
    obtain ⟨hne, hen'⟩ := hafter ty' hty'
    rw [Setup.qid, Setup.qid, classSetup_id, classSetup_id]
    exact class_qid_ne hen hen' hne
  obtain ⟨lqueues, hq, hstored⟩ := hr.stored as _ _ hsplit (fun s' hs' _ => hlast s' hs') htx
  have hup := (hr.up _).mpr ⟨_, hsplit ▸ List.mem_append_right _ List.mem_cons_self, rfl⟩
  obtain ⟨hpid, hqid, hcount⟩ := hfits
  rw [Setup.pid] at hpid hqid hcount hq hup
  rw [Setup.qid] at hqid hstored
  rw [classSetup_id] at hpid hqid hcount hq hup hstored
  have hnb := (hr.port _ hup).1
  refine ⟨by rw [Setup.txPool, if_pos htx]; simp, ?_⟩
  rw [lportQueueGet_ok hpid (by rw [hnb]; exact hqid) (by rw [hnb]; exact hcount) hq, hstored]

/-- The packet handler and RTC. -/
def handlerAndRtc : Values :=
  update (update configSetDefaults .pktHandlerEnabled true) (.enabled .rtc) true

theorem handlerAndRtc_ok : ∃ st, tsnConfigureLports (fun _ _ => true) handlerAndRtc
    (assignQueues handlerAndRtc) (some 1) = .ok st := by
  have hok : (tsnConfigureLports (fun _ _ => true) handlerAndRtc (assignQueues handlerAndRtc)
      (some 1)).isOk = true := by decide +kernel
  cases h : tsnConfigureLports (fun _ _ => true) handlerAndRtc (assignQueues handlerAndRtc)
      (some 1) with
  | error e =>
    rw [h] at hok
    cases hok
  | ok st => exact ⟨st, rfl⟩

theorem lports_ready_rtc : ∃ st lqueue, tsnConfigureLports (fun _ _ => true) handlerAndRtc
      (assignQueues handlerAndRtc) (some 1) = .ok st ∧
    lportQueueGet st ((assignQueues handlerAndRtc).lportId .rtc) = .ok (some lqueue) := by
  obtain ⟨st, h⟩ := handlerAndRtc_ok
  have hen : handlerAndRtc.enabled .rtc = true := by decide +kernel
  exact ⟨st, _, h, (lports_ready h hen).2⟩

/-- **Devices.** Every port that is set up is configured and started once, with all
the queues it has been given and the receive pool of its first setup. -/
theorem ports_configured {env : Env} {app : Values} {pflow : Option UInt16} {st : State}
    (h : tsnConfigureLports env app (assignQueues app) pflow = .ok st) (pid : UInt16) :
    st.calls.filter (Call.isDevice pid) =
      match (setups app (assignQueues app) pflow).find? fun s => decide (s.pid = pid) with
      | none => []
      | some s => portCalls pid (lportQueues (assignQueues app) pid) s.rxPool :=
  (ready_of_ok h).device pid

theorem ports_configured_rtc : ∃ st, tsnConfigureLports (fun _ _ => true) handlerAndRtc
      (assignQueues handlerAndRtc) (some 1) = .ok st ∧
    st.calls.filter (Call.isDevice 1) = portCalls 1 2 ⟨"PktHdlr", false, lportMake 1 0, 2048⟩ := by
  obtain ⟨st, h⟩ := handlerAndRtc_ok
  have hdevice := ports_configured h 1
  have hfirst : ((setups handlerAndRtc (assignQueues handlerAndRtc) (some 1)).find?
      fun s => decide (s.pid = 1)) = some ⟨"PktHdlr", lportMake 1 0, 2048, 16384⟩ := by
    decide +kernel
  have hcount : lportQueues (assignQueues handlerAndRtc) 1 = 2 := by decide +kernel
  rw [hfirst, hcount] at hdevice
  exact ⟨st, h, hdevice⟩

/-- No port is named `net_pflow`. The ids of ports are below `RTE_MAX_ETHPORTS`. -/
def Lost (pflow : Option UInt16) : Prop := ∀ p, pflow = some p → ¬ p < rteMaxEthports

theorem lost_getD {pflow : Option UInt16} (hlost : Lost pflow) :
    ¬ pflow.getD 0xffff < rteMaxEthports := by
  cases pflow with
  | none => decide
  | some p => exact hlost p rfl

theorem found_of_not_lost {pflow : Option UInt16} (h : ¬ Lost pflow) :
    ∃ p, pflow = some p ∧ p < rteMaxEthports := by
  by_contra hnone
  exact h fun p hp hlt => hnone ⟨p, hp, hlt⟩

/-- The second setup of the packet handler reads outside `qinfo`. -/
theorem tsnConfigureLports_lost (hlost : Lost pflow) (hen : pktHandlerEnabled app = true) :
    tsnConfigureLports (fun _ _ => true) app (assignQueues app) pflow = .error .undefined := by
  rw [tsnConfigureLports, setups, handlerSetups, if_pos hen, List.cons_append, List.foldlM_cons]
  have hfirst : ∃ st, runSetup (fun _ _ => true) (assignQueues app) State.init
      ⟨"PktHdlrPhy", lportMake 0 0, 131072, 0⟩ = .ok st := ⟨_, rfl⟩
  obtain ⟨st, hst⟩ := hfirst
  rw [hst]
  show ([_] ++ _ : List Setup).foldlM _ st = _
  rw [List.cons_append, List.foldlM_cons, runSetup_lost (by
    rw [Setup.pid, lport2pid_lportMake]
    exact lost_getD hlost)]
  rfl

/-- `pflow_internals` has no entry for the port. -/
theorem pflowCallbackCreate_lost {pmd : UInt16 → Bool} {cfg : PflowConf} (hlost : Lost pflow) :
    pflowCallbackCreate env pmd (lport2pid (lportMake (pflow.getD 0xffff) 0)) cfg st =
      .error .undefined := by
  rw [pflowCallbackCreate, lport2pid_lportMake]
  exact if_pos (UInt16.not_lt.mp (lost_getD hlost))

theorem pflowCallbackCreate_defined {pmd : UInt16 → Bool} {pid : UInt16} {cfg : PflowConf}
    (hpid : pid < rteMaxEthports) :
    pflowCallbackCreate env pmd pid cfg st ≠ .error .undefined := by
  rw [pflowCallbackCreate, if_neg (UInt16.not_le.mpr hpid)]
  split
  · intro h
    cases h
  · split
    · intro h
      cases h
    · exact (attempt_ends env _ st).bind_defined fun st' _ => (attempt_ends env _ st').ne_undefined

theorem tsnConfigure_defined {pmd : UInt16 → Bool} {p : UInt16} (hp : p < rteMaxEthports) :
    tsnConfigure env pmd app (assignQueues app) (some p) ≠ .error .undefined := by
  have hfound : Found app (some p) := fun _ => ⟨p, rfl, hp⟩
  refine (tsnConfigureLports_ends env hfound).bind_defined fun st₁ _ => ?_
  refine (attempt_ends env _ st₁).bind_defined fun st₂ _ => ?_
  refine (attempt_ends env _ st₂).bind_defined fun st₃ _ => ?_
  refine pflowCallbackCreate_defined ?_
  rw [lport2pid_lportMake]
  exact hp

/-- With the packet handler its second setup goes wrong. Without it every setup goes
well, and the callback is next. -/
theorem tsnConfigure_lost {pmd : UInt16 → Bool} (hlost : Lost pflow) :
    tsnConfigure (fun _ _ => true) pmd app (assignQueues app) pflow = .error .undefined := by
  unfold tsnConfigure
  by_cases hen : pktHandlerEnabled app = true
  · rw [tsnConfigureLports_lost hlost hen]
    rfl
  · have hfound : Found app pflow := fun h => absurd h hen
    obtain ⟨st, hst, -⟩ := (tsnConfigureLports_ends (fun _ _ => true) hfound).returns
    rw [hst]
    exact pflowCallbackCreate_lost hlost

/-- **Pflow.** A program without a port for pflow is one that can go wrong, with the
packet handler or without it, and it never gets to the end. -/
theorem tsnConfigure_undefined_iff (pmd : UInt16 → Bool) (app : Values) (pflow : Option UInt16) :
    ((∃ env, tsnConfigure env pmd app (assignQueues app) pflow = .error .undefined) ↔
      Lost pflow) ∧
    (Lost pflow → ∀ env st, tsnConfigure env pmd app (assignQueues app) pflow ≠ .ok st) := by
  refine ⟨⟨?_, fun hlost => ⟨_, tsnConfigure_lost hlost⟩⟩, fun hlost env st h => ?_⟩
  · rintro ⟨env, h⟩
    by_contra hfound
    obtain ⟨p, rfl, hp⟩ := found_of_not_lost hfound
    exact tsnConfigure_defined hp h
  · obtain ⟨st₁, -, h⟩ := Runs.bind_ok_iff.mp h
    obtain ⟨st₂, -, h⟩ := Runs.bind_ok_iff.mp h
    obtain ⟨st₃, -, h⟩ := Runs.bind_ok_iff.mp h
    rw [pflowCallbackCreate_lost hlost] at h
    cases h

end Rtdk.PortSetup
