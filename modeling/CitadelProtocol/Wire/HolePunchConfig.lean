import Mathlib.Data.List.Perm.Basic
import Mathlib.Data.List.Induction
import Mathlib.Algebra.GroupWithZero.Nat
import CitadelProtocol.Lib.Outcome

/-! # Hole-punch configuration: predicting the peer's next external ports

`HolePunchConfig::new` turns the NAT type the peer reported into bands of addresses to punch
towards. Behind an endpoint-dependent NAT (`EDM`, or `EDMRandomPort` with its average delta)
the peer's next external ports are guessed: `generate_predict_ports_config` takes the last
external port `p` that STUN saw and lists `k = max(6 · min(d, 30), 1)` ports from `p + 1`, as
the Rust range `beginning..ending` over `u16`, both ends computed with `wrapping_add`.

When `p + 1 + k` passes 65535 the end wraps below the beginning and the range is empty, and
when `p = 65535` it starts at port 0. The last theorem here shows that the addresses
`into_iter` yields for the peer's external IP are the `k` nonzero ports following `p`
cyclically exactly when `p + k ≤ 65534`: for the last `k + 1` values of `p` they are not.
-/

namespace CitadelProtocol.Wire

/-- `std::net::IpAddr`. -/
inductive IpAddr
  | v4 (a b c d : UInt8)
  | v6 (bits : BitVec 128)
  deriving DecidableEq, Repr

/-- `std::net::SocketAddr`. -/
structure SocketAddr where
  ip : IpAddr
  port : UInt16
  deriving DecidableEq, Repr

/-- `async_ip::IpAddressInfo`. -/
structure IpAddressInfo where
  internalIpv4 : IpAddr
  externalIpv4 : IpAddr
  externalIpv6 : Option IpAddr
  deriving DecidableEq, Repr

/-- `NatType`; the last field of each variant says whether IPv6 is allowed. -/
inductive NatType
  | eim (addr : SocketAddr) (info : Option IpAddressInfo) (v6 : Bool)
  | portPreserved (addr : IpAddr) (info : Option IpAddressInfo) (v6 : Bool)
  | edm (lastExternalAddr : SocketAddr) (info : Option IpAddressInfo) (delta : Int32) (v6 : Bool)
  | edmRandomIp (addrs : List IpAddr) (info : Option IpAddressInfo) (v6 : Bool)
  | edmRandomIPPortPreserved (addrs : List IpAddr) (info : Option IpAddressInfo) (v6 : Bool)
  | edmRandomPort (lastExternalAddr : SocketAddr) (info : Option IpAddressInfo)
      (ports : List UInt16) (v6 : Bool)
  | unknown
  deriving DecidableEq, Repr

/-- `TraversalTypeRequired`. -/
inductive TraversalTypeRequired
  | linear
  | delta (n : Int32)
  | turn
  deriving DecidableEq, Repr

/-- `MAX_PORT_DELTA_FOR_PREDICTION`. -/
def maxPortDeltaForPrediction : Nat := 30

/-- `MAX_LAST_OCTET_DELTA_FOR_PREDICTION`. -/
def maxLastOctetDeltaForPrediction : Nat := 2

/-- `average_delta`: the gaps between consecutive sorted values, summed, over one less than the
number of values. The source divides in `f32` and truncates. The gaps of `u16` values sum below
`2 ^ 16`, and with fewer than `2 ^ 24 - 2 ^ 16` values the rounded quotient never reaches the
next integer, so the truncation is the quotient of natural numbers; with one value or none the
source divides into `NaN` or `-0`, which the cast turns into 0, as the quotient by 0 is here. -/
def averageDelta (vals : List Nat) : Nat :=
  let sorted := vals.mergeSort
  let sumDiff := ((sorted.zip sorted.tail).map fun (a, b) => b - a).sum
  sumDiff / (vals.length - 1)

/-- `Itertools::all_equal`. -/
def allEqual {α : Type} [DecidableEq α] : List α → Bool
  | [] => true
  | x :: xs => xs.all (· = x)

/-- The octets of the addresses, or `none` at the first IPv6 address. -/
def v4Octets (addrs : List IpAddr) : Option (List (UInt8 × UInt8 × UInt8 × UInt8)) :=
  addrs.mapM fun
    | .v4 a b c d => some (a, b, c, d)
    | .v6 _ => none

namespace NatType

/-- The average delta of a random-port NAT's ports, cast to `u16`. -/
def randPortAverageDelta (ports : List UInt16) : UInt16 :=
  UInt16.ofNat (averageDelta (ports.map UInt16.toNat))

/-- `get_average_delta_for_rand_port`. -/
def getAverageDeltaForRandPort : NatType → Option UInt16
  | .edmRandomPort _ _ ports _ => some (randPortAverageDelta ports)
  | _ => none

/-- `traversal_type_required`. -/
def traversalTypeRequired : NatType → TraversalTypeRequired
  | .eim .. => .linear
  | .portPreserved .. => .linear
  | .edm _ _ n _ => .delta n
  | .edmRandomPort _ _ ports _ =>
      -- `get_average_delta_for_rand_port().unwrap()`, which this variant always answers
      let averageDelta := randPortAverageDelta ports
      if averageDelta.toNat > maxPortDeltaForPrediction then .turn
      else .delta (Int32.ofNat averageDelta.toNat)
  | .edmRandomIPPortPreserved addrs _ _ =>
      -- the loop over the addresses returns `Linear` at the first IPv6 one
      match v4Octets addrs with
      | none => .linear
      | some octets =>
          let delta := averageDelta (octets.map fun (_, _, _, d) => d.toNat)
          if delta < maxLastOctetDeltaForPrediction then
            if allEqual (octets.map fun (a, b, c, _) => (a, b, c)) then .delta (Int32.ofNat delta)
            else .turn
          else .turn
  | .edmRandomIp .. => .turn
  | .unknown => .turn

/-- `stun_compatible`: at least one of the two nodes can be reached without TURN. -/
def stunCompatible (self otherNat : NatType) : Bool :=
  self.traversalTypeRequired ≠ .turn || otherNat.traversalTypeRequired ≠ .turn

end NatType

/-- A bound UDP socket as `HolePunchConfig::new` uses it: `local_addr()` may fail. -/
structure UdpSocket where
  localAddr : Except String SocketAddr

/-- `AddrBand`: an address and the ports to try at it. -/
structure AddrBand where
  necessaryIp : IpAddr
  anticipatedPorts : List UInt16
  deriving DecidableEq, Repr

/-- `HolePunchConfig`. -/
structure HolePunchConfig where
  bands : List AddrBand
  locallyBoundSockets : Option (List UdpSocket)

/-- `SPREAD`. -/
def spread : UInt16 := 6

/-- `check_delta`: a delta above 30 is cut to 30, so that `SPREAD * delta` stays in range. -/
def checkDelta (delta : UInt16) : UInt16 := min delta 30

/-- `load_alternate_bands`: the peer's declared internal port at each of its other addresses that
differs from the last external one. -/
def loadAlternateBands (bands : List AddrBand) (otherAddrs : Option IpAddressInfo)
    (lastExternalAddr : IpAddr) (peerDeclaredInternalPort : UInt16) : List AddrBand :=
  match otherAddrs with
  | none => bands
  | some otherAddrs =>
      let anticipatedPorts := [peerDeclaredInternalPort]
      let bands := if otherAddrs.internalIpv4 ≠ lastExternalAddr then
        bands ++ [⟨otherAddrs.internalIpv4, anticipatedPorts⟩] else bands
      let bands := if otherAddrs.externalIpv4 ≠ lastExternalAddr then
        bands ++ [⟨otherAddrs.externalIpv4, anticipatedPorts⟩] else bands
      match otherAddrs.externalIpv6 with
      | some externalV6 =>
          if externalV6 ≠ lastExternalAddr then bands ++ [⟨externalV6, anticipatedPorts⟩]
          else bands
      | none => bands

/-- The Rust range `beginning..ending` of `u16` ports, collected: empty unless
`beginning < ending`. -/
def portRange (beginning ending : UInt16) : List UInt16 :=
  (List.range' beginning.toNat (ending.toNat - beginning.toNat)).map UInt16.ofNat

/-- `generate_predict_ports_config`: the alternate bands, then the band of predicted ports at the
last external address. -/
def generatePredictPortsConfig (delta : UInt16) (lastExternalAddr : SocketAddr)
    (bands : List AddrBand) (otherAddrs : Option IpAddressInfo) (peerDeclaredInternalPort : UInt16) :
    List AddrBand :=
  let delta := checkDelta delta
  let portsToTargetCount := max (spread * delta) 1
  let beginningPort := lastExternalAddr.port + 1
  let endingPort := beginningPort + portsToTargetCount
  let ports := portRange beginningPort endingPort
  let bands := loadAlternateBands bands otherAddrs lastExternalAddr.ip peerDeclaredInternalPort
  bands ++ [⟨lastExternalAddr.ip, ports⟩]

/-- `generate_local_sockets`: the first socket alone, once its local address is known. -/
def generateLocalSockets (_localNatInfo : NatType) (firstLocalSocket : UdpSocket) :
    Except String (List UdpSocket) := do
  let _localBindAddr ← firstLocalSocket.localAddr
  pure [firstLocalSocket]

open Outcome in
/-- `HolePunchConfig::new`, without the features for testing on localhost; `addrs[0]` of an
empty address list panics. -/
def HolePunchConfig.new (localNatInfo peerNatInfo : NatType) (firstLocalSocket : UdpSocket)
    (peerDeclaredInternalPort : UInt16) : ExceptT String Option HolePunchConfig := do
  if !localNatInfo.stunCompatible peerNatInfo then
    throw "This cannot be called if STUN is not compatible"
  let peerAverageDeltaOpt := peerNatInfo.getAverageDeltaForRandPort
  match peerNatInfo with
  | .eim directAddr otherAddrs _ =>
      let bands := loadAlternateBands [] otherAddrs directAddr.ip peerDeclaredInternalPort
      let bands := bands ++ [⟨directAddr.ip, [peerDeclaredInternalPort]⟩]
      let locallyBoundSockets ← ofResult (generateLocalSockets localNatInfo firstLocalSocket)
      pure ⟨bands, some locallyBoundSockets⟩
  | .portPreserved directAddr otherAddrs _ =>
      let bands := loadAlternateBands [] otherAddrs directAddr peerDeclaredInternalPort
      let bands := bands ++ [⟨directAddr, [peerDeclaredInternalPort]⟩]
      let locallyBoundSockets ← ofResult (generateLocalSockets localNatInfo firstLocalSocket)
      pure ⟨bands, some locallyBoundSockets⟩
  | .edm lastExternalAddr otherAddrs delta _ =>
      -- `*delta as _`: the low 16 bits of the `i32`
      let bands := generatePredictPortsConfig (UInt16.ofInt delta.toInt) lastExternalAddr []
        otherAddrs peerDeclaredInternalPort
      let locallyBoundSockets ← ofResult (generateLocalSockets localNatInfo firstLocalSocket)
      pure ⟨bands, some locallyBoundSockets⟩
  | .edmRandomPort lastExternalAddr otherAddrs _ _ =>
      let delta ← match peerAverageDeltaOpt with
        | some delta => pure delta
        | none => throw "Expected acceptable average delta"
      let bands := generatePredictPortsConfig delta lastExternalAddr [] otherAddrs
        peerDeclaredInternalPort
      let locallyBoundSockets ← ofResult (generateLocalSockets localNatInfo firstLocalSocket)
      pure ⟨bands, some locallyBoundSockets⟩
  | .edmRandomIp .. => pure ⟨[], some [firstLocalSocket]⟩
  | .edmRandomIPPortPreserved addrs otherAddrs _ =>
      let firstAddr ← unwrap addrs.head?
      match firstAddr with
      | .v4 a b c d =>
          let bands := loadAlternateBands [] otherAddrs firstAddr peerDeclaredInternalPort
          -- four more addresses, the last octet incremented by one each time
          let bands := bands ++ (List.range 4).map fun i =>
            ⟨.v4 a b c (d + UInt8.ofNat (i + 1)), [peerDeclaredInternalPort]⟩
          pure ⟨bands, some [firstLocalSocket]⟩
      | .v6 _ => throw "Should not be an ipv6 addr in this block ..."
  | .unknown =>
      throw
        "This function should not be called since one or more of the peers cannot be reached via STUN-like traversal"

/-- `Iterator::next` of `AddrBand`: the last anticipated port is popped. -/
def AddrBand.next (band : AddrBand) : Option (SocketAddr × AddrBand) :=
  band.anticipatedPorts.getLast?.map fun port =>
    (⟨band.necessaryIp, port⟩, ⟨band.necessaryIp, band.anticipatedPorts.dropLast⟩)

/-- The addresses `next` yields until it returns `None`: `for next in band.by_ref()`. -/
def AddrBand.drain (band : AddrBand) : List SocketAddr :=
  match _hnext : band.next with
  | none => []
  | some (addr, rest) => addr :: rest.drain
termination_by band.anticipatedPorts.length
decreasing_by
  simp only [AddrBand.next, Option.map_eq_some_iff, Prod.mk.injEq] at _hnext
  obtain ⟨port, hlast, -, rfl⟩ := _hnext
  have hne : band.anticipatedPorts ≠ [] := by
    rintro hnil
    simp [hnil] at hlast
  simp only [List.length_dropLast]
  have := List.length_pos_of_ne_nil hne
  omega

/-- `IntoIterator for HolePunchConfig`: every band drained, in order. -/
def HolePunchConfig.intoIter (config : HolePunchConfig) : List SocketAddr :=
  config.bands.flatMap AddrBand.drain

section Bands

/-- `next` on a band whose ports end in `port`: that port, and the band without it. -/
theorem AddrBand.next_append (ip : IpAddr) (ports : List UInt16) (port : UInt16) :
    AddrBand.next ⟨ip, ports ++ [port]⟩ = some (⟨ip, port⟩, ⟨ip, ports⟩) := by
  simp [AddrBand.next]

/-- A band yields its ports from the last to the first. -/
theorem AddrBand.drain_eq (band : AddrBand) :
    band.drain = band.anticipatedPorts.reverse.map (SocketAddr.mk band.necessaryIp) := by
  obtain ⟨ip, ports⟩ := band
  induction ports using List.reverseRecOn with
  | nil => simp [AddrBand.drain, AddrBand.next]
  | append_singleton ports port ih =>
      rw [AddrBand.drain, AddrBand.next_append]
      simp [ih]

/-- Each band `load_alternate_bands` adds is at an address other than the last external one. -/
theorem necessaryIp_ne_of_mem_loadAlternateBands {bands : List AddrBand}
    {otherAddrs : Option IpAddressInfo} {ip : IpAddr} {port : UInt16} {band : AddrBand}
    (hmem : band ∈ loadAlternateBands bands otherAddrs ip port) :
    band ∈ bands ∨ band.necessaryIp ≠ ip := by
  rcases otherAddrs with _ | ⟨internalIpv4, externalIpv4, externalIpv6⟩
  · exact .inl hmem
  · rcases externalIpv6 with _ | externalV6 <;>
      simp only [loadAlternateBands] at hmem <;> split_ifs at hmem <;> aesop

end Bands

section Prediction

/-- The `k` ports that follow `p` in the cyclic order `1, 2, …, 65535, 1, …` of nonzero
ports: the window the prediction aims at. -/
def cyclicSuccessors (p : UInt16) (k : Nat) : List UInt16 :=
  (List.range k).map fun i => UInt16.ofNat ((p.toNat + i) % 65535 + 1)

@[simp] theorem length_cyclicSuccessors (p : UInt16) (k : Nat) :
    (cyclicSuccessors p k).length = k := by
  simp [cyclicSuccessors]

theorem ne_zero_of_mem_cyclicSuccessors {p q : UInt16} {k : Nat}
    (hq : q ∈ cyclicSuccessors p k) : q ≠ 0 := by
  simp only [cyclicSuccessors, List.mem_map, List.mem_range] at hq
  obtain ⟨i, -, rfl⟩ := hq
  intro hzero
  have := congrArg UInt16.toNat hzero
  simp only [UInt16.toNat_ofNat', UInt16.toNat_zero] at this
  omega

/-- The number of ports predicted, `max(SPREAD * check_delta(delta), 1)`, computed in `u16`, is
`max(6 · min(delta, 30), 1)`. -/
theorem toNat_portsToTargetCount (delta : UInt16) :
    (max (spread * checkDelta delta) 1).toNat = max (6 * min delta.toNat 30) 1 := by
  have hcheck : (checkDelta delta).toNat = min delta.toNat 30 := UInt16.toNat_min _ _
  rw [UInt16.toNat_max, UInt16.toNat_mul, hcheck]
  simp only [spread, UInt16.reduceToNat]
  omega

/-- The port after `p`, below the top of the port space, does not wrap. -/
theorem toNat_add_one_of_lt {p : UInt16} (hp : p.toNat < 65535) : (p + 1).toNat = p.toNat + 1 := by
  rw [UInt16.toNat_add]
  simp only [UInt16.reduceToNat]
  omega

/-- Below the top of the port space the range is the window of ports after `p`. -/
theorem portRange_of_lt {p count : UInt16} (hp : p.toNat + count.toNat < 65535) :
    portRange (p + 1) (p + 1 + count) = cyclicSuccessors p count.toNat := by
  have hbegin := toNat_add_one_of_lt (show p.toNat < 65535 by omega)
  have hend : (p + 1 + count).toNat = p.toNat + 1 + count.toNat := by
    rw [UInt16.toNat_add, hbegin]
    omega
  simp only [portRange, hbegin, hend, cyclicSuccessors, List.range'_eq_map_range, List.map_map,
    show p.toNat + 1 + count.toNat - (p.toNat + 1) = count.toNat by omega]
  refine List.map_congr_left fun i hi => ?_
  have hi : i < count.toNat := List.mem_range.mp hi
  simp only [Function.comp_apply, Nat.mod_eq_of_lt (show p.toNat + i < 65535 by omega)]
  congr 1
  omega

/-- When `p + 1 + count` passes 65535 the end of the range wraps below its beginning. -/
theorem portRange_of_wrap {p count : UInt16} (hp : p.toNat < 65535)
    (hwrap : 65535 ≤ p.toNat + count.toNat) : portRange (p + 1) (p + 1 + count) = [] := by
  have hbegin := toNat_add_one_of_lt (show p.toNat < 65535 by omega)
  have hend : (p + 1 + count).toNat = p.toNat + 1 + count.toNat - 65536 := by
    rw [UInt16.toNat_add, hbegin]
    have := count.toNat_lt
    omega
  have hcount := count.toNat_lt
  simp only [portRange, hbegin, hend, show p.toNat + 1 + count.toNat - 65536 - (p.toNat + 1) = 0 by
    omega, List.range'_zero, List.map_nil]

/-- From `p = 65535` the range starts at port 0. -/
theorem zero_mem_portRange_of_max {count : UInt16} (hpos : 0 < count.toNat) :
    (0 : UInt16) ∈ portRange (65535 + 1) (65535 + 1 + count) := by
  simp only [portRange, List.mem_map, List.mem_range'_1]
  exact ⟨0, by simp; omega, rfl⟩

/-- The predicted ports, in the order they are yielded, are the window after `p` exactly when
`p + count ≤ 65534`. -/
theorem portRange_reverse_perm_iff (p : UInt16) {count : UInt16} (hpos : 0 < count.toNat) :
    (portRange (p + 1) (p + 1 + count)).reverse.Perm (cyclicSuccessors p count.toNat) ↔
      p.toNat + count.toNat ≤ 65534 := by
  constructor
  · intro hperm
    by_contra hwrap
    by_cases hmax : p = 65535
    · -- the range holds port 0, the window does not
      subst hmax
      have hzero := (hperm.mem_iff).mp (List.mem_reverse.mpr (zero_mem_portRange_of_max hpos))
      exact ne_zero_of_mem_cyclicSuccessors hzero rfl
    · -- the range is empty, the window is not
      have hlt : p.toNat < 65535 := by
        have := p.toNat_lt
        have : p.toNat ≠ 65535 := fun h => hmax (UInt16.toNat_inj.mp h)
        omega
      rw [portRange_of_wrap hlt (by omega)] at hperm
      have := hperm.length_eq
      simp only [List.reverse_nil, List.length_nil, length_cyclicSuccessors] at this
      omega
  · intro hle
    rw [portRange_of_lt (by omega)]
    exact List.reverse_perm _

end Prediction

section Config

variable {localNatInfo : NatType} {firstLocalSocket : UdpSocket} {bindAddr : SocketAddr}

/-- The addresses yielded at the last external IP are the predicted ports, the last one first:
every alternate band is at another address. -/
theorem ports_intoIter_generatePredictPortsConfig (delta : UInt16) (lastExternalAddr : SocketAddr)
    (otherAddrs : Option IpAddressInfo) (peerDeclaredInternalPort : UInt16)
    (sockets : Option (List UdpSocket)) :
    ((HolePunchConfig.intoIter ⟨generatePredictPortsConfig delta lastExternalAddr [] otherAddrs
        peerDeclaredInternalPort, sockets⟩).filter (·.ip = lastExternalAddr.ip)).map
        SocketAddr.port =
      (portRange (lastExternalAddr.port + 1)
        (lastExternalAddr.port + 1 + max (spread * checkDelta delta) 1)).reverse := by
  have halternate : ((loadAlternateBands [] otherAddrs lastExternalAddr.ip
      peerDeclaredInternalPort).flatMap AddrBand.drain).filter (·.ip = lastExternalAddr.ip) = [] := by
    rw [List.filter_eq_nil_iff]
    intro addr haddr
    obtain ⟨band, hband, hyield⟩ := List.mem_flatMap.mp haddr
    rw [AddrBand.drain_eq] at hyield
    obtain ⟨port, -, rfl⟩ := List.mem_map.mp hyield
    rcases necessaryIp_ne_of_mem_loadAlternateBands hband with hnil | hne
    · simp at hnil
    · simpa using hne
  simp only [HolePunchConfig.intoIter, generatePredictPortsConfig, List.flatMap_append,
    List.filter_append, halternate, List.nil_append]
  simp [AddrBand.drain_eq, List.map_reverse, List.filter_map, Function.comp_def]

/-- `new` for a peer behind an `EDM` NAT: the prediction from the low 16 bits of its delta. -/
theorem new_edm (hbound : firstLocalSocket.localAddr = .ok bindAddr) {lastExternalAddr : SocketAddr}
    {info : Option IpAddressInfo} {delta : Int32} {v6 : Bool}
    (hcompat : localNatInfo.stunCompatible (.edm lastExternalAddr info delta v6) = true)
    (peerDeclaredInternalPort : UInt16) :
    (HolePunchConfig.new localNatInfo (.edm lastExternalAddr info delta v6) firstLocalSocket
        peerDeclaredInternalPort).run =
      some (.ok ⟨generatePredictPortsConfig (UInt16.ofInt delta.toInt) lastExternalAddr [] info
        peerDeclaredInternalPort, some [firstLocalSocket]⟩) := by
  simp [HolePunchConfig.new, hcompat, generateLocalSockets, hbound]

/-- `new` for a peer behind a random-port NAT: the prediction from its average delta. -/
theorem new_edmRandomPort (hbound : firstLocalSocket.localAddr = .ok bindAddr)
    {lastExternalAddr : SocketAddr} {info : Option IpAddressInfo} {ports : List UInt16} {v6 : Bool}
    (hcompat : localNatInfo.stunCompatible (.edmRandomPort lastExternalAddr info ports v6) = true)
    (peerDeclaredInternalPort : UInt16) :
    (HolePunchConfig.new localNatInfo (.edmRandomPort lastExternalAddr info ports v6)
        firstLocalSocket peerDeclaredInternalPort).run =
      some (.ok ⟨generatePredictPortsConfig (NatType.randPortAverageDelta ports) lastExternalAddr []
        info peerDeclaredInternalPort, some [firstLocalSocket]⟩) := by
  simp [HolePunchConfig.new, hcompat, generateLocalSockets, hbound,
    NatType.getAverageDeltaForRandPort]

/-- For a peer behind an `EDM` NAT, or a random-port NAT with its average delta `delta`, and a
local NAT compatible with it, `new` succeeds, and the ports it yields at the peer's last external
address are the `k = max(6 · min(delta, 30), 1)` nonzero ports that follow the last external
port `p` cyclically exactly when `p + k ≤ 65534`. -/
theorem predicted_band_perm_iff {peerNatInfo : NatType} {lastExternalAddr : SocketAddr}
    {delta : UInt16}
    (hpeer : (∃ info d v6, peerNatInfo = .edm lastExternalAddr info d v6 ∧
        delta = UInt16.ofInt d.toInt) ∨
      ∃ info ports v6, peerNatInfo = .edmRandomPort lastExternalAddr info ports v6 ∧
        peerNatInfo.getAverageDeltaForRandPort = some delta)
    (hcompat : localNatInfo.stunCompatible peerNatInfo = true)
    (hbound : firstLocalSocket.localAddr = .ok bindAddr) (peerDeclaredInternalPort : UInt16) :
    ∃ config, (HolePunchConfig.new localNatInfo peerNatInfo firstLocalSocket
        peerDeclaredInternalPort).run = some (.ok config) ∧
      ((((config.intoIter.filter (·.ip = lastExternalAddr.ip)).map SocketAddr.port).Perm
          (cyclicSuccessors lastExternalAddr.port (max (6 * min delta.toNat 30) 1))) ↔
        lastExternalAddr.port.toNat + max (6 * min delta.toNat 30) 1 ≤ 65534) := by
  -- both variants build the prediction from `delta` and the peer's other addresses
  obtain ⟨info, hnew⟩ : ∃ info, (HolePunchConfig.new localNatInfo peerNatInfo firstLocalSocket
      peerDeclaredInternalPort).run = some (.ok ⟨generatePredictPortsConfig delta lastExternalAddr
        [] info peerDeclaredInternalPort, some [firstLocalSocket]⟩) := by
    rcases hpeer with ⟨info, d, v6, rfl, rfl⟩ | ⟨info, ports, v6, rfl, hdelta⟩
    · exact ⟨info, new_edm hbound hcompat peerDeclaredInternalPort⟩
    · obtain rfl : NatType.randPortAverageDelta ports = delta := Option.some.inj hdelta
      exact ⟨info, new_edmRandomPort hbound hcompat peerDeclaredInternalPort⟩
  refine ⟨_, hnew, ?_⟩
  rw [ports_intoIter_generatePredictPortsConfig, ← toNat_portsToTargetCount]
  exact portRange_reverse_perm_iff _ (by rw [toNat_portsToTargetCount]; omega)

/-- The local node behind a NAT that preserves endpoints, the peer behind an `EDM` NAT with delta 0
whose last external port was 65534. -/
theorem predicted_band_perm_iff_at_top :
    ∃ config, (HolePunchConfig.new (.eim ⟨.v4 10 0 0 1, 4000⟩ none false)
        (.edm ⟨.v4 1 2 3 4, 65534⟩ none 0 false) ⟨.ok ⟨.v4 0 0 0 0, 4000⟩⟩ 4000).run =
        some (.ok config) ∧
      ¬ ((config.intoIter.filter (·.ip = .v4 1 2 3 4)).map SocketAddr.port).Perm
          (cyclicSuccessors 65534 1) := by
  obtain ⟨config, hnew, hiff⟩ := @predicted_band_perm_iff (.eim ⟨.v4 10 0 0 1, 4000⟩ none false)
    ⟨.ok ⟨.v4 0 0 0 0, 4000⟩⟩ ⟨.v4 0 0 0 0, 4000⟩ (.edm ⟨.v4 1 2 3 4, 65534⟩ none 0 false)
    ⟨.v4 1 2 3 4, 65534⟩ 0 (.inl ⟨none, 0, false, rfl, by decide⟩) (by decide) rfl 4000
  exact ⟨config, hnew, fun hperm => absurd (hiff.mp hperm) (by decide)⟩

end Config

end CitadelProtocol.Wire
