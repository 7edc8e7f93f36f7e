import MediasoupWorker.Library.RingProbe

/-!
# `PortManager`: ports for sockets

`src/src/RTC/PortManager.cpp`. `Bind` begins at a random port and goes on to the next one while its flag is
set or the system refuses it; it writes the normalized address back for the caller, who gives it to
`Unbind`. What the system answers is a parameter, and so is the normalization.
-/

namespace MediasoupWorker.RTC

open Library List

structure PortRange where
  rtcMinPort : ℕ
  rtcMaxPort : ℕ
  one_le_min : 1 ≤ rtcMinPort
  min_le_max : rtcMinPort ≤ rtcMaxPort
  max_lt : rtcMaxPort < 2 ^ 16

namespace PortRange

variable (range : PortRange)

def numPorts : ℕ := (range.rtcMaxPort - range.rtcMinPort + 1) % 2 ^ 16

theorem numPorts_eq : range.numPorts = range.rtcMaxPort - range.rtcMinPort + 1 := by
  have := range.one_le_min
  have := range.max_lt
  exact Nat.mod_eq_of_lt (by omega)

instance : NeZero range.numPorts := ⟨by rw [numPorts_eq]; exact Nat.succ_ne_zero _⟩

def port (i : Fin range.numPorts) : ℕ := (i.val + range.rtcMinPort) % 2 ^ 16

theorem port_eq (i : Fin range.numPorts) : range.port i = i.val + range.rtcMinPort := by
  have := range.max_lt
  have := range.min_le_max
  have := i.isLt.trans_eq range.numPorts_eq
  exact Nat.mod_eq_of_lt (by omega)

theorem port_injective : Function.Injective range.port := by
  intro i j h
  rw [port_eq, port_eq] at h
  exact Fin.ext (Nat.add_right_cancel h)

theorem exists_port_iff {port : ℕ} :
    (∃ i, range.port i = port) ↔ range.rtcMinPort ≤ port ∧ port ≤ range.rtcMaxPort := by
  have := range.min_le_max
  have hnum := range.numPorts_eq
  constructor
  · rintro ⟨i, rfl⟩
    have := i.isLt
    rw [port_eq]
    omega
  · rintro ⟨hmin, hmax⟩
    refine ⟨⟨port - range.rtcMinPort, by omega⟩, ?_⟩
    rw [port_eq]
    exact Nat.sub_add_cancel hmin

end PortRange

namespace PortManager

inductive Transport where
  | udp | tcp
  deriving DecidableEq, Repr

inductive UvError where
  | emfile | eaddrnotavail | other
  deriving DecidableEq, Repr

structure System where
  init : ℕ → Option UvError
  bind : ℕ → Option UvError
  listen : ℕ → Option UvError

inductive Answer where
  | bound
  | initFailed
  | failed (error : UvError)
  deriving DecidableEq, Repr

def System.answer (system : System) (transport : Transport) (port : ℕ) : Answer :=
  match system.init port, system.bind port, transport, system.listen port with
  | some _, _, _, _ => .initFailed
  | none, some error, _, _ => .failed error
  | none, none, .udp, _ => .bound
  -- "uv_tcp_bind() may succeed even if later uv_listen() fails"
  | none, none, .tcp, some error => .failed error
  | none, none, .tcp, none => .bound

inductive BindError where
  | invalidIp | initFailed | noMorePorts | tooManyOpenFiles | addressNotAvailable
  deriving DecidableEq, Repr

def Answer.thrown : Answer → Option BindError
  | .initFailed => some .initFailed
  | .failed .emfile => some .tooManyOpenFiles
  | .failed .eaddrnotavail => some .addressNotAvailable
  | .failed .other => none
  | .bound => none

end PortManager

structure PortManager (range : PortRange) where
  ports : PortManager.Transport → String → Option (Fin range.numPorts → Bool) := fun _ _ => none

namespace PortManager

variable {range : PortRange}

structure Bound (range : PortRange) where
  manager : PortManager range
  ip : String
  tried : List ℕ
  result : Except BindError ℕ

def getPorts (m : PortManager range) (transport : Transport) (ip : String) : Fin range.numPorts → Bool :=
  (m.ports transport ip).getD fun _ => false

def setPorts (m : PortManager range) (transport : Transport) (ip : String)
    (flags : Fin range.numPorts → Bool) : PortManager range where
  ports transport' ip' := if transport' = transport ∧ ip' = ip then some flags else m.ports transport' ip'

def test (flags : Fin range.numPorts → Bool) (answer : ℕ → Answer) (i : Fin range.numPorts) :
    Option (Except BindError (Fin range.numPorts)) :=
  if flags i then none
  else if answer (range.port i) = .bound then some (.ok i)
  else (answer (range.port i)).thrown.map .error

def bind (m : PortManager range) (normalizeIp : String → Option String) (transport : Transport)
    (ip : String) (start : Fin range.numPorts) (system : System) : Bound range :=
  match normalizeIp ip with
  | none => ⟨m, ip, [], .error .invalidIp⟩
  | some ip =>
    let flags := m.getPorts transport ip
    let probed := probe (test flags (system.answer transport)) range.numPorts start
    let tried := probed.2.map range.port
    match probed.1 with
    | none => ⟨m.setPorts transport ip flags, ip, tried, .error .noMorePorts⟩
    | some (.error error) => ⟨m.setPorts transport ip flags, ip, tried, .error error⟩
    | some (.ok i) =>
      ⟨m.setPorts transport ip (Function.update flags i true), ip, tried, .ok (range.port i)⟩

def unbind (m : PortManager range) (transport : Transport) (ip : String) (port : ℕ) : PortManager range :=
  if port < range.rtcMinPort ∨ port > range.rtcMaxPort then m
  else
    match m.ports transport ip with
    | none => m
    | some flags =>
      m.setPorts transport ip fun i => if i.val = port - range.rtcMinPort then false else flags i

inductive Call (range : PortRange) where
  | bind (transport : Transport) (ip : String) (start : Fin range.numPorts) (system : System)
  | unbind (transport : Transport) (ip : String) (port : ℕ)

end PortManager

open PortManager

structure PortRun (range : PortRange) where
  manager : PortManager range := {}
  outstanding : List (Transport × String × ℕ) := []

variable {range : PortRange}

def PortRun.step (normalizeIp : String → Option String) (s : PortRun range) : Call range → PortRun range
  | .bind transport ip start system =>
    let bound := s.manager.bind normalizeIp transport ip start system
    { manager := bound.manager
      outstanding :=
        match bound.result with
        | .ok port => s.outstanding ++ [(transport, bound.ip, port)]
        | .error _ => s.outstanding }
  | .unbind transport ip port =>
    { manager := s.manager.unbind transport ip port
      outstanding := s.outstanding.filter (· ≠ (transport, ip, port)) }

namespace PortManager

def Used (m : PortManager range) (transport : Transport) (ip : String) (port : ℕ) : Prop :=
  ∃ i, m.getPorts transport ip i = true ∧ range.port i = port

theorem used_port {m : PortManager range} {tr : Transport} {ip : String} {i : Fin range.numPorts} :
    m.Used tr ip (range.port i) ↔ m.getPorts tr ip i = true :=
  ⟨fun ⟨_, hused, hport⟩ => range.port_injective hport ▸ hused, fun hused => ⟨i, hused, rfl⟩⟩

theorem getPorts_setPorts (m : PortManager range) (tr tr' : Transport) (ip ip' : String)
    (flags : Fin range.numPorts → Bool) : (m.setPorts tr ip flags).getPorts tr' ip' =
      if tr' = tr ∧ ip' = ip then flags else m.getPorts tr' ip' := by
  by_cases h : tr' = tr ∧ ip' = ip <;> simp [getPorts, setPorts, h]

/-! ## One call -/

section Call

variable (m : PortManager range) (t t' : Transport) (ip ip' : String) (port : ℕ)

theorem used_setPorts_getPorts :
    (m.setPorts t ip (m.getPorts t ip)).Used t' ip' port ↔ m.Used t' ip' port := by
  rw [Used, getPorts_setPorts, Used]
  split
  · rename_i h
    rw [h.1, h.2]
  · rfl

theorem used_setPorts_update (i : Fin range.numPorts) :
    (m.setPorts t ip (Function.update (m.getPorts t ip) i true)).Used t' ip' port ↔
      m.Used t' ip' port ∨ (t', ip', port) = (t, ip, range.port i) := by
  rw [Used, getPorts_setPorts]
  by_cases h : t' = t ∧ ip' = ip
  · obtain ⟨rfl, rfl⟩ := h
    rw [if_pos ⟨rfl, rfl⟩]
    constructor
    · rintro ⟨j, hj, rfl⟩
      by_cases hji : j = i
      · exact .inr (by rw [hji])
      · rw [Function.update_of_ne hji] at hj
        exact .inl ⟨j, hj, rfl⟩
    · rintro (⟨j, hj, rfl⟩ | heq)
      · refine ⟨j, ?_, rfl⟩
        by_cases hji : j = i
        · rw [hji, Function.update_self]
        · rwa [Function.update_of_ne hji]
      · obtain ⟨-, hport⟩ := Prod.mk.inj (Prod.mk.inj heq).2
        exact ⟨i, Function.update_self .., hport.symm⟩
  · rw [if_neg h, ← Used]
    refine ⟨.inl, ?_⟩
    rintro (hused | heq)
    · exact hused
    · obtain ⟨htr, hrest⟩ := Prod.mk.inj heq
      exact absurd ⟨htr, (Prod.mk.inj hrest).1⟩ h

theorem getPorts_unbind (i : Fin range.numPorts) : (m.unbind t ip port).getPorts t' ip' i =
      if (t', ip', range.port i) = (t, ip, port) then false
      else m.getPorts t' ip' i := by
  have hin := range.exists_port_iff.mp ⟨i, rfl⟩
  have hindex : range.port i = port ↔ i.val = port - range.rtcMinPort ∧ range.rtcMinPort ≤ port := by
    rw [range.port_eq]
    omega
  rw [unbind]
  simp only [Prod.mk.injEq]
  split
  · rw [if_neg]
    omega
  · split
    · rename_i hports
      split
      · rename_i heq
        rw [heq.1, heq.2.1, getPorts, hports]
        rfl
      · rfl
    · rename_i flags hports
      rw [getPorts_setPorts]
      by_cases h : t' = t ∧ ip' = ip
      · obtain ⟨rfl, rfl⟩ := h
        have hflags : m.getPorts t' ip' = flags := by rw [getPorts, hports]; rfl
        have hmin : range.rtcMinPort ≤ port := by omega
        simp [hflags, hindex, hmin]
      · rw [if_neg h, if_neg fun heq => h ⟨heq.1, heq.2.1⟩]

theorem used_unbind (port' : ℕ) :
    (m.unbind t ip port').Used t' ip' port ↔ m.Used t' ip' port ∧ (t', ip', port) ≠ (t, ip, port') := by
  constructor
  · rintro ⟨i, hi, rfl⟩
    rw [getPorts_unbind] at hi
    split at hi
    · exact absurd hi Bool.false_ne_true
    · exact ⟨⟨i, hi, rfl⟩, ‹_›⟩
  · rintro ⟨⟨i, hi, rfl⟩, hne⟩
    exact ⟨i, by rwa [getPorts_unbind, if_neg hne], rfl⟩

end Call

variable {m : PortManager range} {normalizeIp : String → Option String} {t : Transport}
  {ip key : String} {start : Fin range.numPorts} {system : System}

/-- **What one index does for the search.** -/
theorem test_spec (flags : Fin range.numPorts → Bool) (answer : ℕ → Answer) (j : Fin range.numPorts) :
    match test flags answer j with
    | none => flags j = true ∨ answer (range.port j) = .failed .other
    | some (.ok i) => i = j ∧ flags j = false
    | some (.error error) => (answer (range.port j)).thrown = some error := by
  rw [test]
  by_cases hflag : flags j = true
  · rw [if_pos hflag]
    exact .inl hflag
  · rw [if_neg hflag]
    cases hanswer : answer (range.port j) with
    | bound => exact ⟨rfl, by simpa using hflag⟩
    | initFailed => rfl
    | failed error =>
      cases error with
      | emfile => rfl
      | eaddrnotavail => rfl
      | other => exact .inr rfl

/-- **What `Bind` does** with an address. -/
theorem bind_cases (m : PortManager range) (t : Transport) (hkey : normalizeIp ip = some key)
    (start : Fin range.numPorts) (system : System) :
    ∃ tried : List (Fin range.numPorts), tried.Nodup ∧ ((∃ i ∈ tried, m.getPorts t key i = false ∧
        m.bind normalizeIp t ip start system =
          ⟨m.setPorts t key (Function.update (m.getPorts t key) i true), key,
            tried.map range.port, .ok (range.port i)⟩) ∨ ∃ error, m.bind normalizeIp t ip start system =
          ⟨m.setPorts t key (m.getPorts t key), key, tried.map range.port, .error error⟩ ∧
        ((∃ i ∈ tried, (system.answer t (range.port i)).thrown = some error) ∨
          error = .noMorePorts ∧ ∀ i, m.getPorts t key i = true ∨
            system.answer t (range.port i) = .failed .other)) := by
  have hspec := test_spec (m.getPorts t key) (system.answer t)
  obtain ⟨hpre, hsome, hnone⟩ :=
    probe_spec (test (m.getPorts t key) (system.answer t)) range.numPorts start
  refine ⟨_, (nodup_ringFrom start).sublist hpre.sublist, ?_⟩
  simp only [PortManager.bind, hkey]
  cases hprobe : (probe (test (m.getPorts t key) (system.answer t)) range.numPorts start).1 with
  | none =>
    refine .inr ⟨_, rfl, .inr ⟨rfl, fun i => ?_⟩⟩
    have := hspec i
    rwa [hnone hprobe i (mem_ringFrom start i)] at this
  | some r =>
    obtain ⟨j, hj, htest⟩ := hsome r hprobe
    have := hspec j
    rw [htest] at this
    cases r with
    | ok i =>
      obtain ⟨rfl, hflag⟩ := this
      exact .inl ⟨i, hj, hflag, rfl⟩
    | error error => exact .inr ⟨error, rfl, .inl ⟨j, hj, this⟩⟩

end PortManager

open PortManager

variable {normalizeIp : String → Option String}

theorem PortRun.step_used_iff {s : PortRun range} (call : Call range)
    (h : ∀ tr ip port, s.manager.Used tr ip port ↔ (tr, ip, port) ∈ s.outstanding) (tr : Transport)
    (ip : String) (port : ℕ) : (s.step normalizeIp call).manager.Used tr ip port ↔
      (tr, ip, port) ∈ (s.step normalizeIp call).outstanding := by
  cases call with
  | bind tr' ip' start system =>
    rw [step]
    cases hkey : normalizeIp ip' with
    | none =>
      simp only [PortManager.bind, hkey]
      exact h tr ip port
    | some key =>
      obtain ⟨tried, -, ⟨i, -, -, hbind⟩ | ⟨error, hbind, -⟩⟩ :=
        bind_cases s.manager tr' hkey start system
      · rw [hbind, used_setPorts_update, h, mem_append, mem_singleton]
      · rw [hbind, used_setPorts_getPorts, h]
  | unbind tr' ip' port' =>
    rw [step, used_unbind, h, mem_filter, decide_eq_true_iff]

theorem PortRun.used_iff (calls : List (Call range)) :
    ∀ tr ip port, (calls.foldl (step normalizeIp) {}).manager.Used tr ip port ↔
      (tr, ip, port) ∈ (calls.foldl (step normalizeIp) {}).outstanding := by
  refine foldlRecOn (motive := fun s : PortRun range => ∀ tr ip port,
    s.manager.Used tr ip port ↔ (tr, ip, port) ∈ s.outstanding) calls (step normalizeIp) ?_
    fun s hs call _ => step_used_iff call hs
  intro tr ip port
  constructor
  · rintro ⟨i, hi, -⟩
    exact absurd hi Bool.false_ne_true
  · exact fun hmem => absurd hmem not_mem_nil

/-- **Ports are allocated exhaustively and exclusively.** -/
theorem PortRun.bind_exhaustive_exclusive (range : PortRange) (normalizeIp : String → Option String)
    (calls : List (Call range)) :
    let s := calls.foldl (step normalizeIp) {}
    (∀ transport ip port, s.manager.Used transport ip port ↔ (transport, ip, port) ∈ s.outstanding) ∧
      ∀ transport ip key, normalizeIp ip = some key → ∀ start system,
        let bound := s.manager.bind normalizeIp transport ip start system
        bound.tried.Nodup ∧ (∀ port ∈ bound.tried, range.rtcMinPort ≤ port ∧ port ≤ range.rtcMaxPort) ∧
          (∀ port, bound.result = .ok port → port ∈ bound.tried ∧ (transport, key, port) ∉ s.outstanding) ∧
          ∀ error, bound.result = .error error →
            (∃ port ∈ bound.tried, (system.answer transport port).thrown = some error) ∨
              error = .noMorePorts ∧ ∀ port, range.rtcMinPort ≤ port → port ≤ range.rtcMaxPort →
                (transport, key, port) ∈ s.outstanding ∨ system.answer transport port = .failed .other := by
  intro s
  have hused : ∀ transport ip port, s.manager.Used transport ip port ↔ (transport, ip, port) ∈ s.outstanding :=
    used_iff calls
  refine ⟨hused, ?_⟩
  intro transport ip key hkey start system bound
  obtain ⟨tried, hnodup, hcases⟩ := bind_cases s.manager transport hkey start system
  have htried : bound.tried = tried.map range.port := by
    rcases hcases with ⟨i, -, -, hbind⟩ | ⟨error, hbind, -⟩ <;> exact congrArg Bound.tried hbind
  rw [htried]
  refine ⟨hnodup.map range.port_injective, ?_, ?_, ?_⟩
  · intro port hport
    obtain ⟨i, -, rfl⟩ := List.mem_map.mp hport
    exact range.exists_port_iff.mp ⟨i, rfl⟩
  · intro port hok
    rcases hcases with ⟨i, hi, hfree, hbind⟩ | ⟨error, hbind, -⟩
    · obtain rfl : range.port i = port := Except.ok.inj ((congrArg Bound.result hbind).symm.trans hok)
      refine ⟨List.mem_map_of_mem hi, ?_⟩
      rw [← hused, used_port, hfree]
      exact Bool.false_ne_true
    · exact absurd ((congrArg Bound.result hbind).symm.trans hok) (by simp)
  · intro error herror
    rcases hcases with ⟨i, -, -, hbind⟩ | ⟨error', hbind, hwhy⟩
    · exact absurd ((congrArg Bound.result hbind).symm.trans herror) (by simp)
    · obtain rfl : error' = error := Except.error.inj ((congrArg Bound.result hbind).symm.trans herror)
      rcases hwhy with ⟨i, hi, hthrown⟩ | ⟨hnoMore, hall⟩
      · exact .inl ⟨_, List.mem_map_of_mem hi, hthrown⟩
      · refine .inr ⟨hnoMore, fun port hmin hmax => ?_⟩
        obtain ⟨i, rfl⟩ := range.exists_port_iff.mpr ⟨hmin, hmax⟩
        rw [← hused, used_port]
        exact hall i

def twoPorts : PortRange := ⟨40000, 40001, by decide, by decide, by decide⟩

-- The system refuses the first port.
def refusing : System :=
  ⟨fun _ => none, fun port => if port = 40000 then some .other else none, fun _ => none⟩

def oneBound : PortRun twoPorts := [.bind .udp "::1" 1 refusing].foldl (PortRun.step some) {}

theorem PortRun.bind_exhaustive_exclusive_twoPorts :
    oneBound.outstanding = [(.udp, "::1", 40001)] ∧
      (oneBound.manager.bind some .udp "::1" 0 refusing).result = .error .noMorePorts ∧
      (oneBound.manager.bind some .udp "::1" 0 refusing).tried.Nodup :=
  ⟨by decide +kernel, by decide +kernel,
    ((bind_exhaustive_exclusive twoPorts some [.bind .udp "::1" 1 refusing]).2 .udp "::1" "::1" rfl 0
      refusing).1⟩

end MediasoupWorker.RTC
