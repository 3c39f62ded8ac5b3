import StegoLab.Library.Contracts
import StegoLab.Sources.Transport

/-!
# Confinement of the transport

Whatever is looked up and answered, every connection goes to an address that was checked at its own
hop, for an https URL on an allowed port, and carries an authorization only for its own host.
-/

namespace StegoLab

open Transaction

variable {library : NetworkLibrary} {policy : AddressPolicy} {transport : SecureTransport}
  {network : Network} {request : OpenRequest} {target : ValidatedUrl}

/-! ### URLs -/

/-- What an accepted URL is. -/
structure AcceptedUrl (library : NetworkLibrary) (policy : AddressPolicy) (url : String)
    (target : ValidatedUrl) : Prop where
  same : target.url = url
  https : ∃ parts, library.urlsplit url = some parts ∧ parts.scheme = "https" ∧
    parts.hostname.getD "" = target.host
  port : target.port ∈ policy.allowed_ports

lemma validate_url_ok {url : String} (h : validate_url library policy url = .ok target) :
    AcceptedUrl library policy url target := by
  obtain ⟨_, -, h⟩ := bind_eq_ok.mp h
  obtain ⟨_, -, h⟩ := bind_eq_ok.mp h
  cases hparts : library.urlsplit url with
  | none =>
    rw [hparts] at h
    exact absurd h (by simp)
  | some parts =>
    rw [hparts] at h
    cases hport : parts.port with
    | none =>
      simp only [hport] at h
      exact absurd h (by simp)
    | some explicit_port =>
      simp only [hport] at h
      obtain ⟨_, hparts', h⟩ := bind_eq_ok.mp h
      obtain ⟨_, -, h⟩ := bind_eq_ok.mp h
      obtain ⟨_, hallowed, h⟩ := bind_eq_ok.mp h
      obtain rfl := pure_eq_ok.mp h
      have hscheme := raise_if_eq_ok.mp hparts'
      push Not at hscheme
      exact ⟨rfl, ⟨parts, hparts, hscheme.1, rfl⟩, not_not.mp (raise_if_eq_ok.mp hallowed)⟩

/-! ### Addresses -/

/-- A text that names an address that passes the check. -/
def Checked (library : NetworkLibrary) (policy : AddressPolicy) (text : String) : Prop :=
  ∃ address, library.ip_address text = some address ∧ check_address library policy address = .ok ()

lemma parse_literal_ok {text code : String} {address : IPAddress}
    (h : parse_literal library text code = .ok address) :
    library.ip_address text = some address := by
  unfold parse_literal at h
  cases hparsed : library.ip_address text with
  | none =>
    rw [hparsed] at h
    exact absurd h (by simp [fail])
  | some found =>
    rw [hparsed] at h
    exact congrArg some (Except.ok.inj h)

lemma check_answers_ok {records addresses result : List String}
    (h : check_answers library policy records addresses = .ok result)
    (haddresses : ∀ text ∈ addresses, Checked library policy text) :
    ∀ text ∈ result, Checked library policy text := by
  induction records generalizing addresses with
  | nil =>
    obtain rfl := Except.ok.inj h
    exact haddresses
  | cons record records ih =>
    obtain ⟨address, hparsed, h⟩ := bind_eq_ok.mp h
    obtain ⟨_, hchecked, h⟩ := bind_eq_ok.mp h
    refine ih h fun text htext => ?_
    split_ifs at htext with hknown
    · exact haddresses text htext
    · rcases List.mem_append.mp htext with htext | htext
      · exact haddresses text htext
      · obtain rfl := List.mem_singleton.mp htext
        exact ⟨address, parse_literal_ok hparsed, hchecked⟩

/-- Every address that a host resolves to has passed the check. -/
lemma resolve_and_check_ok {getaddrinfo : String → Option (List String)} {host : String}
    {addresses : List String} (h : resolve_and_check library policy getaddrinfo host = .ok addresses) :
    ∀ text ∈ addresses, Checked library policy text := by
  unfold resolve_and_check at h
  cases hliteral : library.ip_address host with
  | some literal =>
    rw [hliteral] at h
    obtain ⟨_, hchecked, h⟩ := bind_eq_ok.mp h
    obtain rfl := pure_eq_ok.mp h
    intro text htext
    obtain rfl := List.mem_singleton.mp htext
    exact ⟨literal, library.ip_address_str host literal hliteral, hchecked⟩
  | none =>
    rw [hliteral] at h
    cases hrecords : getaddrinfo host with
    | none =>
      simp only [hrecords] at h
      exact absurd h (by simp [fail])
    | some records =>
      simp only [hrecords] at h
      obtain ⟨result, hresult, h⟩ := bind_eq_ok.mp h
      obtain ⟨_, -, h⟩ := bind_eq_ok.mp h
      obtain rfl := pure_eq_ok.mp h
      exact check_answers_ok hresult fun _ htext => absurd htext List.not_mem_nil

/-- Without loopback, an address that passes is public, and so is one that it carries. -/
lemma check_address_public {address : IPAddress} (hloopback : policy.allow_loopback = false)
    (h : check_address library policy address = .ok ()) :
    library.is_loopback address.embedded_ipv4 = false ∧
      library.is_private address.embedded_ipv4 = false ∧
      library.is_link_local address.embedded_ipv4 = false ∧
      library.is_global address.embedded_ipv4 = true := by
  unfold check_address at h
  dsimp only at h
  split_ifs at h with hlocal
  · exact absurd hloopback (raise_if_eq_ok.mp h)
  · have hpassed := raise_if_eq_ok.mp h
    simp only [Bool.or_eq_true, not_or, Bool.not_eq_true', Bool.not_eq_true,
      Bool.not_eq_false] at hpassed hlocal
    exact ⟨hlocal, hpassed.1.1.2, hpassed.1.1.1.2, hpassed.2⟩

/-! ### Headers -/

lemma get?_with_header {headers : Dict String} {name : String} {value : Option String}
    {key found : String} (h : (with_header headers name value).get? key = some found) :
    key = name ∧ value = some found ∨ headers.get? key = some found := by
  cases value with
  | none => exact Or.inr h
  | some value =>
    rw [with_header, Dict.get?_insert] at h
    split_ifs at h with hkey
    · exact Or.inl ⟨hkey, h⟩
    · exact Or.inr h

/-- A header that the caller gives is not a reserved one. -/
lemma get?_caller_headers {headers : Dict String} {key found : String}
    (h : (Dict.of_items (headers.entries.filter fun header =>
      Text.lower header.1 ∉ RESERVED_HEADERS)).get? key = some found) :
    Text.lower key ∉ RESERVED_HEADERS := by
  rw [Dict.get?_of_items (headers.nodup_keys.sublist (List.filter_sublist.map Prod.fst))] at h
  have hkept := (List.mem_filter.mp h).2
  simpa using hkept

/-- An authorization that is sent is the one of the host. -/
lemma authorization_of_host {name value : String}
    (h : (request_headers transport target request).get? name = some value)
    (hname : Text.lower name = "authorization") :
    transport.authorization.get? target.host = some value := by
  have hother : ∀ {key : String}, Text.lower key ≠ "authorization" → name ≠ key :=
    fun hkey heq => hkey (heq ▸ hname)
  unfold request_headers at h
  rcases get?_with_header h with ⟨-, hvalue⟩ | h
  · exact hvalue
  rcases get?_with_header h with ⟨heq, -⟩ | h
  · exact absurd heq (hother (by decide +kernel))
  rcases get?_with_header h with ⟨heq, -⟩ | h
  · exact absurd heq (hother (by decide +kernel))
  rw [Dict.get?_insert, if_neg (hother (by decide +kernel)), Dict.get?_insert,
    if_neg (hother (by decide +kernel)), Dict.get?_insert,
    if_neg (hother (by decide +kernel))] at h
  exact absurd (hname ▸ get?_caller_headers h) (by decide +kernel)

/-! ### Hops -/

/-- What a connection keeps to. -/
structure Confined (library : NetworkLibrary) (transport : SecureTransport) (network : Network)
    (hop : ℕ) (connection : Connection) : Prop where
  https : ∃ parts, library.urlsplit connection.url = some parts ∧ parts.scheme = "https" ∧
    parts.hostname.getD "" = connection.host
  port : connection.port ∈ transport.policy.allowed_ports
  /-- The address is the first that the host has been resolved to at this hop. -/
  resolved : ∃ others, resolve_and_check library transport.policy (network.getaddrinfo hop)
    connection.host = .ok (connection.address :: others)
  checked : Checked library transport.policy connection.address
  authorization : ∀ sent ∈ connection.request, ∀ name value,
    sent.headers.get? name = some value → Text.lower name = "authorization" →
      transport.authorization.get? connection.host = some value

/-- Every connection so far is confined. -/
def AllConfined (library : NetworkLibrary) (transport : SecureTransport) (network : Network)
    (log : List Connection) : Prop :=
  ∀ hop connection, log[hop]? = some connection → Confined library transport network hop connection

lemma AllConfined.append {log : List Connection} {connection : Connection}
    (h : AllConfined library transport network log)
    (hlast : Confined library transport network log.length connection) :
    AllConfined library transport network (log ++ [connection]) := by
  intro hop other hother
  rcases lt_trichotomy hop log.length with hlt | rfl | hgt
  · rw [List.getElem?_append_left hlt] at hother
    exact h hop other hother
  · rw [List.getElem?_concat_length] at hother
    obtain rfl := Option.some.inj hother
    exact hlast
  · rw [List.getElem?_eq_none (by simp; omega)] at hother
    exact absurd hother (by simp)

/-- The log before a hop, and after it. -/
def ConfinedLog (library : NetworkLibrary) (transport : SecureTransport) (network : Network)
    (hops : ℕ) (log : List Connection) : Prop :=
  log.length = hops ∧ AllConfined library transport network log

variable {hop : ℕ} {address : String}

/-- One request adds one confined connection to the log. -/
lemma contract_send {others : List String} {url : String}
    (htarget : AcceptedUrl library transport.policy url target)
    (haddresses : resolve_and_check library transport.policy (network.getaddrinfo hop) target.host
      = .ok (address :: others)) :
    Contract (ConfinedLog library transport network hop)
      (send transport network hop target address request)
      (fun _ => ConfinedLog library transport network (hop + 1))
      fun _ => ConfinedLog library transport network (hop + 1) := by
  have hconfined : ∀ sent : Option SentRequest,
      (∀ given ∈ sent, given.headers = request_headers transport target request) →
        Confined library transport network hop
          { url := target.url, address, host := target.host, port := target.port,
            request := sent } := fun sent hsent =>
    { https := htarget.same ▸ htarget.https
      port := htarget.port
      resolved := ⟨others, haddresses⟩
      checked := resolve_and_check_ok haddresses address List.mem_cons_self
      authorization := fun given hgiven name value hvalue hname =>
        authorization_of_host (hsent given hgiven ▸ hvalue) hname }
  have hlog : ∀ (log : List Connection) (connection : Connection),
      ConfinedLog library transport network hop log →
      Confined library transport network hop connection →
      ConfinedLog library transport network (hop + 1) (log ++ [connection]) := by
    rintro log connection ⟨rfl, hall⟩ hlast
    exact ⟨by simp, hall.append hlast⟩
  refine Contract.bind (Q := fun found log => log = found ∧
    ConfinedLog library transport network hop found) (.read fun log h => ⟨rfl, h⟩) fun log => ?_
  refine .ite (fun _ => ?_) fun _ => ?_
  · refine Contract.bind (Q := fun _ => ConfinedLog library transport network (hop + 1))
      (.write fun _ h => hlog _ _ h.2 (hconfined none (by simp))) fun _ => ?_
    exact .lift (fun _ hraised => absurd hraised (by simp [fail])) fun _ _ _ h => h
  · refine Contract.bind (Q := fun _ => ConfinedLog library transport network (hop + 1))
      (.write fun _ h => hlog _ _ h.2 (hconfined (some _) (by simp))) fun _ => ?_
    cases network.respond hop _ with
    | none => exact .lift (fun _ hraised => absurd hraised (by simp [fail])) fun _ _ _ h => h
    | some response => exact .pure fun _ h => h

/-- The log after some hops. -/
def ConfinedWithin (library : NetworkLibrary) (transport : SecureTransport) (network : Network)
    (hops : ℕ) (log : List Connection) : Prop :=
  log.length ≤ hops ∧ AllConfined library transport network log

lemma contract_open_hops {remaining : ℕ} {url : String} :
    Contract (ConfinedLog library transport network hop)
      (open_hops library transport network request remaining hop url)
      (fun _ => ConfinedWithin library transport network (hop + remaining))
      fun _ => ConfinedWithin library transport network (hop + remaining) := by
  induction remaining generalizing hop url with
  | zero =>
    exact .lift (fun _ hraised => absurd hraised (by simp [fail])) fun _ _ _ h => ⟨h.1.le, h.2⟩
  | succ remaining ih =>
    have hstays : ∀ {hops : ℕ} {log}, hops ≤ hop + (remaining + 1) →
        ConfinedLog library transport network hops log →
        ConfinedWithin library transport network (hop + (remaining + 1)) log :=
      fun hle h => ⟨h.1.le.trans hle, h.2⟩
    refine Contract.bind (Q := fun target log =>
        validate_url library transport.policy url = .ok target ∧
          ConfinedLog library transport network hop log)
      (.lift (fun _ htarget _ h => ⟨htarget, h⟩) fun _ _ _ h => hstays (by omega) h)
      fun target => .assume fun htarget => ?_
    refine Contract.bind (Q := fun addresses log =>
        resolve_and_check library transport.policy (network.getaddrinfo hop) target.host
          = .ok addresses ∧ ConfinedLog library transport network hop log)
      (.lift (fun _ haddresses _ h => ⟨haddresses, h⟩) fun _ _ _ h => hstays (by omega) h)
      fun addresses => .assume fun haddresses => ?_
    cases addresses with
    | nil =>
      refine Contract.bind (Q := fun _ _ => False)
        (.lift (fun _ hfirst => absurd hfirst (by simp [first_address]))
          fun _ _ _ h => hstays (by omega) h) fun _ => ⟨fun h => h.elim, fun h => h.elim⟩
    | cons address others =>
      refine Contract.bind (Q := fun found log => found = address ∧
          ConfinedLog library transport network hop log)
        (.lift (fun _ hfirst _ h => ⟨(Except.ok.inj hfirst).symm, h⟩)
          fun _ hfirst => absurd hfirst (by simp [first_address]))
        fun found => .assume fun hfound => ?_
      rw [hfound]
      refine Contract.bind ((contract_send (validate_url_ok htarget) haddresses).mono
        (fun _ => id) (fun _ _ => id) fun _ _ h => hstays (by omega) h) fun response => ?_
      refine .ite (fun _ => ?_) fun _ => .pure fun _ h => hstays (by omega) h
      refine Contract.bind (Q := fun _ => ConfinedLog library transport network (hop + 1))
        (.lift (fun _ _ _ h => h) fun _ _ _ h => hstays (by omega) h) fun url => ?_
      rw [show hop + (remaining + 1) = hop + 1 + remaining by omega]
      exact ih

/-- However redirected and whatever is looked up, the transport is confined. -/
theorem transport_confined {url : String} {outcome : Except Raised OpenedResponse}
    {log : List Connection}
    (h : open_url library transport network request url [] = (outcome, log)) :
    log.length ≤ transport.maximum_redirects + 1 ∧
      ∀ hop connection, log[hop]? = some connection →
        Confined library transport network hop connection := by
  have hcontract : Contract (ConfinedLog library transport network 0)
      (open_url library transport network request url)
      (fun _ => ConfinedWithin library transport network (0 + (transport.maximum_redirects + 1)))
      fun _ => ConfinedWithin library transport network (0 + (transport.maximum_redirects + 1)) :=
    contract_open_hops
  rw [Nat.zero_add] at hcontract
  have hstart : ConfinedLog library transport network 0 [] :=
    ⟨rfl, fun _ _ hfound => absurd hfound (by simp)⟩
  cases outcome with
  | ok response => exact hcontract.returns hstart h
  | error e => exact hcontract.fails hstart h

/-! ### A redirect -/

def public_text : String := "93.184.216.34"

/-- The parts of `https://host/path`. -/
def plain_url (host path : String) : SplitUrl :=
  { scheme := "https", netloc := host, path, query := "", hostname := some host, port := some none }

/-- The standard library, as far as two hosts with one public address need it. -/
def two_hosts_library : NetworkLibrary where
  urlsplit url :=
    if url = "https://data.example/file" then some (plain_url "data.example" "/file")
    else if url = "https://cdn.example/file" then some (plain_url "cdn.example" "/file")
    else none
  urljoin _ location := some location
  ip_address text := if text = public_text then some (.v4 0x5db8d822) else none
  str _ := public_text
  is_loopback _ := false
  is_multicast _ := false
  is_reserved _ := false
  is_unspecified _ := false
  is_link_local _ := false
  is_private _ := false
  is_global _ := true
  ip_address_str text address h := by
    split_ifs at h
    exact (if_pos rfl).trans h

/-- The first host redirects to the second. -/
def redirecting_network : Network where
  getaddrinfo _ _ := some [public_text]
  connects _ := true
  respond hop _ :=
    if hop = 0 then some { status := 302, headers := [("Location", "https://cdn.example/file")] }
    else some { status := 200, headers := [] }

def authorized_transport : SecureTransport where
  authorization := Dict.empty.insert "data.example" "Bearer secret"

def redirected_connections : List Connection :=
  (open_url two_hosts_library authorized_transport redirecting_network {}
    "https://data.example/file" []).2

/-- A redirect to another host. -/
theorem transport_confined_redirect :
    redirected_connections.map Connection.host = ["data.example", "cdn.example"] ∧
      redirected_connections.length ≤ authorized_transport.maximum_redirects + 1 ∧
      ∀ hop connection, redirected_connections[hop]? = some connection →
        Confined two_hosts_library authorized_transport redirecting_network hop connection := by
  have hopened : open_url two_hosts_library authorized_transport redirecting_network {}
      "https://data.example/file" [] = (_, redirected_connections) := Prod.mk.eta.symm
  exact ⟨by decide +kernel, transport_confined hopened⟩

end StegoLab
