import Mathlib.Data.List.AList
import CitadelProtocol.Lib.Reachability

/-! # Peer registrations kept by the server

The server keeps, in each client's account, the list of its HyperLAN peers: the entry
`HYPERLAN_IDX` of the account's `mutuals` multimap. `register_p2p_as_server` appends each of two
accounts to the other's list, without looking for an entry already there.
`deregister_p2p_as_server` removes the first matching entry from one list, then from the other.
`delete_cnac_by_cid` drops an account, and each peer it lists removes one entry of it.

Registering a pair twice lists each account twice in the other's list, and one deregistration
then leaves one entry on each side (`repeated_registration_survives_deregistration`).

The backend's map of accounts is an `AList` keyed by CID; an account shared through its lock is
updated in place, which is an insertion under its key.
-/

namespace CitadelProtocol.User

/-- `HYPERLAN_IDX`. -/
def hyperlanIdx : UInt64 := 0

/-- `AccountError`, with the variants these calls raise. -/
inductive AccountError
  | clientNonExists (cid : UInt64)
  | generic (message : String)
  deriving DecidableEq, Repr

/-- `MutualPeer`. -/
structure MutualPeer where
  parentIcid : UInt64
  cid : UInt64
  username : Option String
  deriving DecidableEq, Repr

/-- The part of `ClientNetworkAccount` these calls read and write: its CID, its username
(`auth_store.username()`) and the `HYPERLAN_IDX` entry of `mutuals`, absent until the first
insertion. -/
structure ClientNetworkAccount where
  cid : UInt64
  username : String
  hyperlanPeers : Option (List MutualPeer)
  deriving DecidableEq, Repr

namespace ClientNetworkAccount

/-- `MultiMap::insert` under `HYPERLAN_IDX`: the peer joins the end of the list. -/
def insertMutual (acct : ClientNetworkAccount) (peer : MutualPeer) : ClientNetworkAccount :=
  { acct with hyperlanPeers := some (acct.hyperlanPeers.getD [] ++ [peer]) }

/-- `get_hyperlan_peer_list`. -/
def getHyperlanPeerList (acct : ClientNetworkAccount) : Option (List UInt64) :=
  acct.hyperlanPeers.map fun peers => peers.map MutualPeer.cid

/-- `register_hyperlan_p2p_as_server`: each account lists the other, under the other's
username. -/
def registerHyperlanP2pAsServer (this other : ClientNetworkAccount) :
    ClientNetworkAccount × ClientNetworkAccount :=
  (this.insertMutual ⟨hyperlanIdx, other.cid, some other.username⟩,
    other.insertMutual ⟨hyperlanIdx, this.cid, some this.username⟩)

/-- `remove_hyperlan_peer`: the first entry of `cid` leaves the list and is returned. -/
def removeHyperlanPeer (acct : ClientNetworkAccount) (cid : UInt64) :
    Option MutualPeer × ClientNetworkAccount :=
  match acct.hyperlanPeers with
  | none => (none, acct)
  | some peers =>
      match peers.find? (fun peer => peer.cid == cid) with
      | none => (none, acct)
      | some peer =>
          (some peer, { acct with hyperlanPeers := some (peers.eraseP fun peer => peer.cid == cid) })

/-- `deregister_hyperlan_p2p_as_server`: the other account leaves this one's list, then this one
leaves the other's. The second removal may fail after the first was made. -/
def deregisterHyperlanP2pAsServer (this other : ClientNetworkAccount) :
    Except AccountError Unit × ClientNetworkAccount × ClientNetworkAccount :=
  match this.removeHyperlanPeer other.cid with
  | (none, _) => (.error (.clientNonExists other.cid), this, other)
  | (some _, this') =>
      match other.removeHyperlanPeer this.cid with
      | (none, _) => (.error (.generic "Could not remove self from other cnac"), this', other)
      | (some _, other') => (.ok (), this', other')

section Lemmas

variable (acct : ClientNetworkAccount)

@[simp] theorem cid_insertMutual (peer : MutualPeer) : (acct.insertMutual peer).cid = acct.cid :=
  rfl

/-- An insertion appends the peer's CID to the list of CIDs, creating the list if need be. -/
theorem getHyperlanPeerList_insertMutual (peer : MutualPeer) :
    (acct.insertMutual peer).getHyperlanPeerList =
      some (acct.getHyperlanPeerList.getD [] ++ [peer.cid]) := by
  cases hpeers : acct.hyperlanPeers <;> simp [insertMutual, getHyperlanPeerList, hpeers]

/-- Removing the first entry of a CID removes that CID once from the list of CIDs. -/
theorem map_cid_eraseP (peers : List MutualPeer) (cid : UInt64) :
    (peers.eraseP fun peer => peer.cid == cid).map MutualPeer.cid =
      (peers.map MutualPeer.cid).erase cid := by
  rw [List.erase_eq_eraseP, List.eraseP_map]
  congr 2
  funext peer
  simp [eq_comm]

@[simp] theorem cid_removeHyperlanPeer (cid : UInt64) :
    (acct.removeHyperlanPeer cid).2.cid = acct.cid := by
  unfold removeHyperlanPeer
  split
  · rfl
  · split <;> rfl

/-- Spec of `remove_hyperlan_peer` on the list of CIDs: one entry of the CID goes, if there is
one. -/
theorem getHyperlanPeerList_removeHyperlanPeer (cid : UInt64) :
    (acct.removeHyperlanPeer cid).2.getHyperlanPeerList =
      acct.getHyperlanPeerList.map fun cids => cids.erase cid := by
  unfold removeHyperlanPeer
  cases hpeers : acct.hyperlanPeers with
  | none => simp [getHyperlanPeerList, hpeers]
  | some peers =>
      cases hfind : peers.find? (fun peer => peer.cid == cid) with
      | none =>
          -- no entry of `cid`: erasing it changes nothing
          have hnot : cid ∉ peers.map MutualPeer.cid := by
            simp only [List.find?_eq_none, beq_iff_eq] at hfind
            simpa using hfind
          simp [getHyperlanPeerList, hpeers, hfind, List.erase_of_not_mem hnot]
      | some peer => simp [getHyperlanPeerList, hpeers, hfind, map_cid_eraseP]

theorem getD_getHyperlanPeerList_removeHyperlanPeer (cid : UInt64) :
    (acct.removeHyperlanPeer cid).2.getHyperlanPeerList.getD [] =
      (acct.getHyperlanPeerList.getD []).erase cid := by
  rw [getHyperlanPeerList_removeHyperlanPeer]
  cases acct.getHyperlanPeerList <;> rfl

/-- `remove_hyperlan_peer` returns an entry exactly when the list holds the CID. -/
theorem isSome_removeHyperlanPeer (cid : UInt64) :
    (acct.removeHyperlanPeer cid).1.isSome ↔ cid ∈ acct.getHyperlanPeerList.getD [] := by
  unfold removeHyperlanPeer
  cases hpeers : acct.hyperlanPeers with
  | none => simp [getHyperlanPeerList, hpeers]
  | some peers =>
      have hfind : (peers.find? fun peer => peer.cid == cid).isSome ↔
          ∃ peer ∈ peers, (peer.cid == cid) = true := List.find?_isSome
      -- the list holds the CID exactly when the search finds an entry of it
      have hmem : cid ∈ acct.getHyperlanPeerList.getD [] ↔ ∃ peer ∈ peers, (peer.cid == cid) = true := by
        simp [getHyperlanPeerList, hpeers]
      rw [hmem, ← hfind]
      cases hresult : peers.find? (fun peer => peer.cid == cid) <;> simp [hresult]

/-- Deregistering two accounts that list each other removes one entry from each list. -/
theorem deregisterHyperlanP2pAsServer_of_mem {this other : ClientNetworkAccount}
    (hthis : other.cid ∈ this.getHyperlanPeerList.getD [])
    (hother : this.cid ∈ other.getHyperlanPeerList.getD []) :
    this.deregisterHyperlanP2pAsServer other =
      (.ok (), (this.removeHyperlanPeer other.cid).2, (other.removeHyperlanPeer this.cid).2) := by
  obtain ⟨peer, hpeer⟩ := Option.isSome_iff_exists.mp ((isSome_removeHyperlanPeer this _).mpr hthis)
  obtain ⟨peer', hpeer'⟩ :=
    Option.isSome_iff_exists.mp ((isSome_removeHyperlanPeer other _).mpr hother)
  unfold deregisterHyperlanP2pAsServer
  rw [show this.removeHyperlanPeer other.cid = (some peer, (this.removeHyperlanPeer other.cid).2)
      from Prod.ext hpeer rfl,
    show other.removeHyperlanPeer this.cid = (some peer', (other.removeHyperlanPeer this.cid).2)
      from Prod.ext hpeer' rfl]

end Lemmas

end ClientNetworkAccount

/-- `MemoryBackend`: the accounts, by CID. -/
structure MemoryBackend where
  clients : AList fun _ : UInt64 => ClientNetworkAccount

/-- The calls of the server on its peer registrations. -/
inductive Call
  | registerP2pAsServer (cid0 cid1 : UInt64)
  | deregisterP2pAsServer (cid0 cid1 : UInt64)
  | deleteCnacByCid (cid : UInt64)
  deriving DecidableEq, Repr

namespace MemoryBackend

/-- `register_p2p_as_server`. A missing second account is reported under the first CID, as the
source does. With one CID twice the source takes the same account's lock twice and never
returns, which is `none`. -/
def registerP2pAsServer (backend : MemoryBackend) (cid0 cid1 : UInt64) :
    Option (Except AccountError Unit × MemoryBackend) :=
  match backend.clients.lookup cid0, backend.clients.lookup cid1 with
  | none, _ => some (.error (.clientNonExists cid0), backend)
  | some _, none => some (.error (.clientNonExists cid0), backend)
  | some cnac0, some cnac1 =>
      if cid0 = cid1 then none
      else
        let (cnac0, cnac1) := cnac0.registerHyperlanP2pAsServer cnac1
        some (.ok (), ⟨(backend.clients.insert cid0 cnac0).insert cid1 cnac1⟩)

/-- `deregister_p2p_as_server`; the accounts keep what the removals changed, also on an error. -/
def deregisterP2pAsServer (backend : MemoryBackend) (cid0 cid1 : UInt64) :
    Except AccountError Unit × MemoryBackend :=
  match backend.clients.lookup cid0, backend.clients.lookup cid1 with
  | none, _ => (.error (.clientNonExists cid0), backend)
  | some _, none => (.error (.clientNonExists cid0), backend)
  | some cnac0, some cnac1 =>
      let (result, cnac0, cnac1) := cnac0.deregisterHyperlanP2pAsServer cnac1
      (result, ⟨(backend.clients.insert cid0 cnac0).insert cid1 cnac1⟩)

/-- The loop of `delete_cnac_by_cid`: each listed peer that has an account removes one entry of
`cid`. -/
def removeFromPeers (cid : UInt64) (clients : AList fun _ : UInt64 => ClientNetworkAccount)
    (peers : List UInt64) : AList fun _ : UInt64 => ClientNetworkAccount :=
  peers.foldl (fun clients peer =>
    match clients.lookup peer with
    | some peerAcct => clients.insert peer (peerAcct.removeHyperlanPeer cid).2
    | none => clients) clients

/-- `delete_cnac_by_cid`. -/
def deleteCnacByCid (backend : MemoryBackend) (cid : UInt64) :
    Except AccountError Unit × MemoryBackend :=
  match backend.clients.lookup cid with
  | none => (.error (.clientNonExists cid), backend)
  | some cl =>
      (.ok (), ⟨removeFromPeers cid (backend.clients.erase cid) (cl.getHyperlanPeerList.getD [])⟩)

/-- One call, with what it returns; `none` when it does not return. -/
def call (backend : MemoryBackend) : Call → Option (Except AccountError Unit × MemoryBackend)
  | .registerP2pAsServer cid0 cid1 => backend.registerP2pAsServer cid0 cid1
  | .deregisterP2pAsServer cid0 cid1 => some (backend.deregisterP2pAsServer cid0 cid1)
  | .deleteCnacByCid cid => some (backend.deleteCnacByCid cid)

/-- The runs of the calls from a backend. -/
def system (start : MemoryBackend) :
    Transition.System MemoryBackend (Call × Except AccountError Unit) where
  init backend := backend = start
  step backend label backend' := backend.call label.1 = some (label.2, backend')

/-- The CIDs in the HyperLAN peer list of the account of `cid`; none when it has no account or no
list. -/
def peerCids (backend : MemoryBackend) (cid : UInt64) : List UInt64 :=
  ((backend.clients.lookup cid).bind ClientNetworkAccount.getHyperlanPeerList).getD []

/-- Every account sits under its own CID. -/
def Keyed (backend : MemoryBackend) : Prop :=
  ∀ cid acct, backend.clients.lookup cid = some acct → acct.cid = cid

theorem keyed_empty : (⟨∅⟩ : MemoryBackend).Keyed := by
  intro cid acct h
  simp [AList.lookup_empty] at h

/-- Saving an account under its own CID keeps the backend keyed. -/
theorem Keyed.insert {backend : MemoryBackend} (hkeyed : backend.Keyed) {cid : UInt64}
    {acct : ClientNetworkAccount} (hcid : acct.cid = cid) :
    (⟨backend.clients.insert cid acct⟩ : MemoryBackend).Keyed := by
  intro cid' acct' h
  by_cases hsame : cid' = cid
  · subst hsame
    rw [AList.lookup_insert, Option.some.injEq] at h
    rw [← h, hcid]
  · rw [AList.lookup_insert_ne hsame] at h
    exact hkeyed cid' acct' h

section Calls

variable {backend : MemoryBackend} {cid0 cid1 : UInt64} {cnac0 cnac1 : ClientNetworkAccount}

/-- Spec of `register_p2p_as_server` on two distinct accounts: both are updated in place, and
every other account is left alone. -/
theorem registerP2pAsServer_spec (h0 : backend.clients.lookup cid0 = some cnac0)
    (h1 : backend.clients.lookup cid1 = some cnac1) (hne : cid0 ≠ cid1) :
    ∃ backend', backend.registerP2pAsServer cid0 cid1 = some (.ok (), backend') ∧
      backend'.clients.lookup cid0 = some (cnac0.registerHyperlanP2pAsServer cnac1).1 ∧
      backend'.clients.lookup cid1 = some (cnac0.registerHyperlanP2pAsServer cnac1).2 ∧
      ∀ cid, cid ≠ cid0 → cid ≠ cid1 → backend'.clients.lookup cid = backend.clients.lookup cid := by
  refine ⟨⟨(backend.clients.insert cid0 (cnac0.registerHyperlanP2pAsServer cnac1).1).insert cid1
    (cnac0.registerHyperlanP2pAsServer cnac1).2⟩, ?_, ?_, ?_, ?_⟩
  · simp [registerP2pAsServer, h0, h1, hne]
  · rw [AList.lookup_insert_ne hne, AList.lookup_insert]
  · exact AList.lookup_insert _
  · intro cid hcid0 hcid1
    rw [AList.lookup_insert_ne hcid1, AList.lookup_insert_ne hcid0]

/-- Spec of `deregister_p2p_as_server` on two distinct accounts: both take what the account-level
call left them, and every other account is left alone. -/
theorem deregisterP2pAsServer_spec (h0 : backend.clients.lookup cid0 = some cnac0)
    (h1 : backend.clients.lookup cid1 = some cnac1) (hne : cid0 ≠ cid1) :
    (backend.deregisterP2pAsServer cid0 cid1).1 = (cnac0.deregisterHyperlanP2pAsServer cnac1).1 ∧
      (backend.deregisterP2pAsServer cid0 cid1).2.clients.lookup cid0 =
        some (cnac0.deregisterHyperlanP2pAsServer cnac1).2.1 ∧
      (backend.deregisterP2pAsServer cid0 cid1).2.clients.lookup cid1 =
        some (cnac0.deregisterHyperlanP2pAsServer cnac1).2.2 ∧
      ∀ cid, cid ≠ cid0 → cid ≠ cid1 →
        (backend.deregisterP2pAsServer cid0 cid1).2.clients.lookup cid =
          backend.clients.lookup cid := by
  have hcall : backend.deregisterP2pAsServer cid0 cid1 =
      ((cnac0.deregisterHyperlanP2pAsServer cnac1).1,
        ⟨(backend.clients.insert cid0 (cnac0.deregisterHyperlanP2pAsServer cnac1).2.1).insert cid1
          (cnac0.deregisterHyperlanP2pAsServer cnac1).2.2⟩) := by
    simp [deregisterP2pAsServer, h0, h1]
  rw [hcall]
  refine ⟨rfl, ?_, AList.lookup_insert _, ?_⟩
  · rw [AList.lookup_insert_ne hne, AList.lookup_insert]
  · intro cid hcid0 hcid1
    rw [AList.lookup_insert_ne hcid1, AList.lookup_insert_ne hcid0]

theorem peerCids_of_lookup {cid : UInt64} {acct : ClientNetworkAccount}
    (h : backend.clients.lookup cid = some acct) :
    backend.peerCids cid = acct.getHyperlanPeerList.getD [] := by
  simp [peerCids, h]

end Calls

/-- Two accounts registered twice and deregistered once stay registered: each registration
appends an entry on each side, and the deregistration removes one entry from each. -/
theorem repeated_registration_survives_deregistration {backend : MemoryBackend} {a b : UInt64}
    (hkeyed : backend.Keyed) (hne : a ≠ b) (ha : a ∈ backend.clients)
    (hb : b ∈ backend.clients) :
    ∃ once twice final,
      backend.registerP2pAsServer a b = some (.ok (), once) ∧
      once.registerP2pAsServer a b = some (.ok (), twice) ∧
      2 ≤ (twice.peerCids a).count b ∧ 2 ≤ (twice.peerCids b).count a ∧
      twice.deregisterP2pAsServer a b = (.ok (), final) ∧
      b ∈ final.peerCids a ∧ a ∈ final.peerCids b := by
  obtain ⟨cnacA, hA⟩ := Option.isSome_iff_exists.mp (AList.lookup_isSome.mpr ha)
  obtain ⟨cnacB, hB⟩ := Option.isSome_iff_exists.mp (AList.lookup_isSome.mpr hb)
  have hcidA : cnacA.cid = a := hkeyed a cnacA hA
  have hcidB : cnacB.cid = b := hkeyed b cnacB hB
  obtain ⟨once, honce, hA1, hB1, -⟩ := registerP2pAsServer_spec hA hB hne
  obtain ⟨twice, htwice, hA2, hB2, -⟩ := registerP2pAsServer_spec hA1 hB1 hne
  -- after two registrations each list ends with two entries of the other account
  set cnacA2 := ((cnacA.registerHyperlanP2pAsServer cnacB).1.registerHyperlanP2pAsServer
    (cnacA.registerHyperlanP2pAsServer cnacB).2).1 with hcnacA2
  set cnacB2 := ((cnacA.registerHyperlanP2pAsServer cnacB).1.registerHyperlanP2pAsServer
    (cnacA.registerHyperlanP2pAsServer cnacB).2).2 with hcnacB2
  have hlistA : cnacA2.getHyperlanPeerList.getD [] = cnacA.getHyperlanPeerList.getD [] ++ [b, b] := by
    simp [cnacA2, ClientNetworkAccount.registerHyperlanP2pAsServer,
      ClientNetworkAccount.getHyperlanPeerList_insertMutual, hcidB]
  have hlistB : cnacB2.getHyperlanPeerList.getD [] = cnacB.getHyperlanPeerList.getD [] ++ [a, a] := by
    simp [cnacB2, ClientNetworkAccount.registerHyperlanP2pAsServer,
      ClientNetworkAccount.getHyperlanPeerList_insertMutual, hcidA]
  have hcidA2 : cnacA2.cid = a := by simp [cnacA2, ClientNetworkAccount.registerHyperlanP2pAsServer, hcidA]
  have hcidB2 : cnacB2.cid = b := by simp [cnacB2, ClientNetworkAccount.registerHyperlanP2pAsServer, hcidB]
  -- the deregistration finds an entry on each side and removes it
  have hmemA : cnacB2.cid ∈ cnacA2.getHyperlanPeerList.getD [] := by simp [hlistA, hcidB2]
  have hmemB : cnacA2.cid ∈ cnacB2.getHyperlanPeerList.getD [] := by simp [hlistB, hcidA2]
  obtain ⟨hresult, hA3, hB3, -⟩ := deregisterP2pAsServer_spec hA2 hB2 hne
  rw [ClientNetworkAccount.deregisterHyperlanP2pAsServer_of_mem hmemA hmemB] at hresult hA3 hB3
  refine ⟨once, twice, _, honce, htwice, ?_, ?_, Prod.ext hresult rfl, ?_, ?_⟩
  · rw [peerCids_of_lookup hA2, hlistA]
    simp
  · rw [peerCids_of_lookup hB2, hlistB]
    simp
  · -- one of the two entries is left
    rw [peerCids_of_lookup hA3, ClientNetworkAccount.getD_getHyperlanPeerList_removeHyperlanPeer,
      hlistA, hcidB2]
    apply List.count_pos_iff.mp
    rw [List.count_erase_self]
    simp
  · rw [peerCids_of_lookup hB3, ClientNetworkAccount.getD_getHyperlanPeerList_removeHyperlanPeer,
      hlistB, hcidA2]
    apply List.count_pos_iff.mp
    rw [List.count_erase_self]
    simp

/-- Two accounts with no peers yet. -/
def twoAccounts : MemoryBackend :=
  ⟨((∅ : AList fun _ : UInt64 => ClientNetworkAccount).insert 1 ⟨1, "alice", none⟩).insert 2
    ⟨2, "bob", none⟩⟩

/-- Accounts 1 and 2, registered twice and deregistered once, still list each other. -/
theorem repeated_registration_survives_deregistration_of_two_accounts :
    twoAccounts.Keyed ∧ (1 : UInt64) ≠ 2 ∧ 1 ∈ twoAccounts.clients ∧ 2 ∈ twoAccounts.clients ∧
      ∃ once twice final,
        twoAccounts.registerP2pAsServer 1 2 = some (.ok (), once) ∧
        once.registerP2pAsServer 1 2 = some (.ok (), twice) ∧
        2 ≤ (twice.peerCids 1).count 2 ∧ 2 ≤ (twice.peerCids 2).count 1 ∧
        twice.deregisterP2pAsServer 1 2 = (.ok (), final) ∧
        2 ∈ final.peerCids 1 ∧ 1 ∈ final.peerCids 2 := by
  have hkeyed : twoAccounts.Keyed :=
    @Keyed.insert _ (@Keyed.insert _ keyed_empty 1 ⟨1, "alice", none⟩ rfl) 2 ⟨2, "bob", none⟩ rfl
  have h1 : (1 : UInt64) ∈ twoAccounts.clients := by decide
  have h2 : (2 : UInt64) ∈ twoAccounts.clients := by decide
  exact ⟨hkeyed, by decide, h1, h2,
    repeated_registration_survives_deregistration hkeyed (by decide) h1 h2⟩

end MemoryBackend

end CitadelProtocol.User
