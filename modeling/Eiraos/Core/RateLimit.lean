import Eiraos.Foundations.InternetAddress

/-! # Whom a request is counted against (`core/ratelimit.py`)

The limiter counts requests by the address of the peer.  Behind a trusted proxy it reads the
chain of `X-Forwarded-For` from the right, over the proxies it knows, to the nearest address
that none of its networks holds.
-/

namespace Eiraos.RateLimit

open InternetAddress PythonText

def maxForwardedHeaderChars : Nat := 1024
def maxForwardedHops : Nat := 16

/-- What `client_identity` reads of a request. -/
structure Request where
  clientHost : Option String
  forwardedFor : Option String
  deriving DecidableEq, Repr

/-- `_address`; `none` for a text that is no literal. -/
def address (value : String) : Option Address := ipAddress (strip value)

/-- `_trusted`, with the networks of `settings.trusted_proxy_networks`. -/
def trusted (networks : List Network) : Option Address → Bool
  | none => false
  | some address => networks.any (·.contains address)

/-- The chain of a header that has one; `none` when the header is ignored. -/
def forwardedChain (forwarded : String) : Option (List Address) :=
  if forwarded = "" then none
  else if forwarded.length > maxForwardedHeaderChars then none
  else
    let rawChain := split ',' forwarded
    if rawChain.length > maxForwardedHops then none
    else rawChain.mapM address

/-- The scan from the right; a chain of trusted addresses counts against its first. -/
def nearest (networks : List Network) (peer : Address) (chain : List Address) : Address :=
  match chain.reverse.find? fun candidate => !trusted networks (some candidate) with
  | some candidate => candidate
  | none => chain.headD peer

def peerText (request : Request) : String := request.clientHost.getD "unknown"

def clientIdentity (networks : List Network) (request : Request) : String :=
  match address (peerText request) with
  | none => peerText request
  | some peer =>
    if !trusted networks (some peer) then peer.str
    else
      match forwardedChain (request.forwardedFor.getD "") with
      | none => peer.str
      | some chain => (nearest networks peer chain).str

/-! ## Chains -/

/-- A header made of the literals of these addresses, with commas between them. -/
def Chain (header : String) (addresses : List Address) : Prop :=
  (split ',' header).map address = addresses.map some

/-- The limits on what is read of a header. -/
structure WithinLimits (header : String) : Prop where
  chars : header.length ≤ maxForwardedHeaderChars
  hops : (split ',' header).length ≤ maxForwardedHops

theorem mapM_address {items : List String} {addresses : List Address}
    (literals : items.map address = addresses.map some) : items.mapM address = some addresses := by
  induction items generalizing addresses with
  | nil =>
    cases addresses with
    | nil => rfl
    | cons => cases literals
  | cons item items inductionHypothesis =>
    cases addresses with
    | nil => cases literals
    | cons first rest =>
      simp only [List.map_cons, List.cons.injEq] at literals
      simp [literals.1, inductionHypothesis literals.2]

section Chains

variable {header forged : String} {addresses forgedAddresses : List Address}

theorem Chain.ne_empty (chain : Chain header addresses) : header ≠ "" := by
  rintro rfl
  have first : address "" = none := by decide +kernel
  have items : split ',' "" = [""] := by decide +kernel
  rw [Chain, items, List.map_singleton, first] at chain
  cases addresses with
  | nil => cases chain
  | cons => simp at chain

/-- Two chains joined by a comma are a chain. -/
theorem Chain.append (before : Chain forged forgedAddresses) (chain : Chain header addresses) :
    Chain (forged ++ "," ++ header) (forgedAddresses ++ addresses) := by
  have joined : (forged ++ "," ++ header).toList = forged.toList ++ ',' :: header.toList := by simp
  unfold Chain at *
  rw [split_append joined, List.map_append, before, chain, List.map_append]

theorem Chain.forwardedChain (chain : Chain header addresses) (within : WithinLimits header) :
    forwardedChain header = some addresses := by
  simp only [RateLimit.forwardedChain, if_neg chain.ne_empty, if_neg (Nat.not_lt.mpr within.chars),
    if_neg (Nat.not_lt.mpr within.hops), mapM_address chain]

end Chains

/-! ## The scan -/

section Scan

variable {networks : List Network} {peer : Address} {chain : List Address}

/-- The nearest address of a chain that no network holds: all behind it are proxies. -/
structure Nearest (networks : List Network) (chain : List Address) (candidate : Address) : Prop where
  untrusted : trusted networks (some candidate) = false
  behind : ∃ before after, chain = before ++ candidate :: after ∧
    ∀ hop ∈ after, trusted networks (some hop) = true

theorem nearest_eq {candidate : Address} (isNearest : Nearest networks chain candidate) :
    nearest networks peer chain = candidate := by
  obtain ⟨untrusted, before, after, rfl, proxies⟩ := isNearest
  have found : (before ++ candidate :: after).reverse.find? (fun hop => !trusted networks (some hop)) =
      some candidate := by
    rw [List.find?_eq_some_iff_append]
    refine ⟨by simp [untrusted], after.reverse, before.reverse, by simp, fun hop member => ?_⟩
    simp [proxies hop (List.mem_reverse.mp member)]
  simp only [nearest, found]

theorem exists_nearest (some_untrusted : ∃ hop ∈ chain, trusted networks (some hop) = false) :
    ∃ candidate, Nearest networks chain candidate := by
  induction chain using List.reverseRecOn with
  | nil => simp at some_untrusted
  | append_singleton chain last inductionHypothesis =>
    -- the scan starts at the last hop and goes on only while the hops are trusted
    cases held : trusted networks (some last) with
    | false => exact ⟨last, held, chain, [], rfl, by simp⟩
    | true =>
      have inside : ∃ hop ∈ chain, trusted networks (some hop) = false := by
        obtain ⟨hop, member, untrusted⟩ := some_untrusted
        rcases List.mem_append.mp member with member | member
        · exact ⟨hop, member, untrusted⟩
        · rw [List.mem_singleton.mp member, held] at untrusted
          cases untrusted
      obtain ⟨candidate, untrusted, before, after, rfl, proxies⟩ := inductionHypothesis inside
      refine ⟨candidate, untrusted, before, after ++ [last], by simp, fun hop member => ?_⟩
      rcases List.mem_append.mp member with member | member
      · exact proxies hop member
      · rw [List.mem_singleton.mp member, held]

/-- Addresses put in front of a chain leave its nearest address where it is. -/
theorem Nearest.prepend {candidate : Address} (isNearest : Nearest networks chain candidate)
    (forged : List Address) : Nearest networks (forged ++ chain) candidate := by
  obtain ⟨untrusted, before, after, rfl, proxies⟩ := isNearest
  exact ⟨untrusted, forged ++ before, after, by simp, proxies⟩

end Scan

/-! ## The identity -/

section Identity

variable {networks : List Network} {clientHost : Option String} {header : String}
  {addresses : List Address} {candidate : Address}

/-- Whoever the header names, an untrusted peer is counted as itself. -/
theorem clientIdentity_untrusted (untrusted : trusted networks (address (clientHost.getD "unknown")) = false)
    (forwardedFor : Option String) : clientIdentity networks ⟨clientHost, forwardedFor⟩ =
      ((address (clientHost.getD "unknown")).map Address.str).getD (clientHost.getD "unknown") := by
  unfold clientIdentity peerText
  cases peer : address (clientHost.getD "unknown") with
  | none => rfl
  | some peer =>
    rw [peer] at untrusted
    simp [untrusted]

theorem clientIdentity_chain
    (peerTrusted : trusted networks (address (clientHost.getD "unknown")) = true)
    (chain : Chain header addresses) (within : WithinLimits header)
    (isNearest : Nearest networks addresses candidate) :
    clientIdentity networks ⟨clientHost, some header⟩ = candidate.str := by
  unfold clientIdentity peerText
  cases peer : address (clientHost.getD "unknown") with
  | none =>
    rw [peer] at peerTrusted
    cases peerTrusted
  | some peer =>
    rw [peer] at peerTrusted
    simp only [peerTrusted, Bool.not_true, Bool.false_eq_true, if_false, Option.getD_some,
      chain.forwardedChain within, nearest_eq isNearest]

/-- A header that passes a limit counts for nothing. -/
theorem clientIdentity_beyond {peer : Address} (isPeer : address (clientHost.getD "unknown") = some peer)
    (beyond : ¬WithinLimits header) : clientIdentity networks ⟨clientHost, some header⟩ = peer.str := by
  have ignored : forwardedChain header = none := by
    unfold forwardedChain
    by_cases long : header.length > maxForwardedHeaderChars
    · simp [long]
    · have many : (split ',' header).length > maxForwardedHops := by
        by_contra few
        exact beyond ⟨Nat.not_lt.mp long, Nat.not_lt.mp few⟩
      simp [many]
  simp only [clientIdentity, peerText, isPeer, Option.getD_some, ignored, ite_self]

end Identity

/-- A trusted peer is counted as the nearest address of its chain, whatever stands in front of
it, and any other peer as itself. -/
theorem client_cannot_choose_identity (networks : List Network) (clientHost : Option String) :
    (trusted networks (address (clientHost.getD "unknown")) = false →
      ∀ first second : Option String,
        clientIdentity networks ⟨clientHost, first⟩ = clientIdentity networks ⟨clientHost, second⟩) ∧
    (trusted networks (address (clientHost.getD "unknown")) = true →
      ∀ (header : String) (addresses : List Address), Chain header addresses → WithinLimits header →
        (∃ hop ∈ addresses, trusted networks (some hop) = false) →
        ∃ candidate, Nearest networks addresses candidate ∧
          clientIdentity networks ⟨clientHost, some header⟩ = candidate.str ∧
          ∀ (forged : String) (forgedAddresses : List Address), Chain forged forgedAddresses →
            WithinLimits (forged ++ "," ++ header) →
            clientIdentity networks ⟨clientHost, some (forged ++ "," ++ header)⟩ = candidate.str) ∧
    ∀ peer, address (clientHost.getD "unknown") = some peer → ∀ header : String, ¬WithinLimits header →
      clientIdentity networks ⟨clientHost, some header⟩ = peer.str := by
  refine ⟨fun untrusted first second => ?_, fun peerTrusted header addresses chain within untrusted => ?_,
    fun peer isPeer header beyond => clientIdentity_beyond isPeer beyond⟩
  · rw [clientIdentity_untrusted untrusted, clientIdentity_untrusted untrusted]
  · obtain ⟨candidate, isNearest⟩ := exists_nearest untrusted
    refine ⟨candidate, isNearest, clientIdentity_chain peerTrusted chain within isNearest, ?_⟩
    intro forged forgedAddresses forgedChain within
    exact clientIdentity_chain peerTrusted (forgedChain.append chain) within (isNearest.prepend forgedAddresses)

/-- `10.0.0.0/8` and `192.168.0.0/16`. -/
def privateNetworks : List Network :=
  [.v4 (.around 0x0A000000 8 (by decide)), .v4 (.around 0xC0A80000 16 (by decide))]

theorem client_cannot_choose_identity_proxied :
    clientIdentity privateNetworks ⟨some "203.0.113.9", some "198.51.100.4"⟩ =
        clientIdentity privateNetworks ⟨some "203.0.113.9", none⟩ ∧
      ∃ candidate, Nearest privateNetworks [.v4 0xC6336407, .v4 0xC0A80203] candidate ∧
        clientIdentity privateNetworks ⟨some "10.2.3.4", some "198.51.100.7, 192.168.2.3"⟩ = candidate.str ∧
        clientIdentity privateNetworks ⟨some "10.2.3.4", some ("::1" ++ "," ++ "198.51.100.7, 192.168.2.3")⟩ =
          candidate.str := by
  refine ⟨(client_cannot_choose_identity privateNetworks (some "203.0.113.9")).1 (by decide +kernel) _ _, ?_⟩
  obtain ⟨candidate, isNearest, identity, prepended⟩ :=
    (client_cannot_choose_identity privateNetworks (some "10.2.3.4")).2.1 (by decide +kernel)
      "198.51.100.7, 192.168.2.3" [.v4 0xC6336407, .v4 0xC0A80203]
      (show (split ',' "198.51.100.7, 192.168.2.3").map address = _ by decide +kernel)
      ⟨by decide +kernel, by decide +kernel⟩ ⟨.v4 0xC6336407, by decide, by decide +kernel⟩
  exact ⟨candidate, isNearest, identity, prepended "::1" [.v6 1 none]
    (show (split ',' "::1").map address = _ by decide +kernel) ⟨by decide +kernel, by decide +kernel⟩⟩

end Eiraos.RateLimit
