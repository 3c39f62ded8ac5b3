import StegoLab.Library.Dictionary
import StegoLab.Library.Text
import StegoLab.Library.Transactions

/-!
# The transport

Requests over https that connect to checked addresses only, and follow redirects. What is looked up
and what servers answer is a parameter of every hop.
-/

namespace StegoLab

open Transaction

/-! ### Failures -/

def transport_messages : String → String
  | "download_connection" =>
    "The download connection failed. Check the address and try again."
  | "download_redirect_limit" => "The download was redirected too many times."
  | _ => "The download stopped receiving data."

def transport_failure (code : String) : ApplicationFailure where
  code := code
  message := transport_messages code
  status_code := 502

def address_messages : String → String
  | "download_address" => "The download address must use https on port 443 without credentials "
    ++ "or fragments."
  | "download_address_blocked" =>
    "The download address points to a private, local or reserved network "
      ++ "and was refused."
  | _ => "The download host name could not be resolved."

def address_failure (code : String) : ApplicationFailure where
  code := code
  message := address_messages code
  status_code := 400

/-! ### Addresses -/

/-- An address of the `ipaddress` module. -/
inductive IPAddress where
  | v4 (bits : BitVec 32)
  | v6 (bits : BitVec 128) (scope_id : Option String)
  deriving DecidableEq

namespace IPAddress

def ipv4_mapped : BitVec 128 → Option IPAddress := fun bits =>
  if bits >>> 32 = 0xffff then some (.v4 (bits.setWidth 32)) else none

def sixtofour : BitVec 128 → Option IPAddress := fun bits =>
  if bits >>> 112 = 0x2002 then some (.v4 ((bits >>> 80).setWidth 32)) else none

/-- The client of a Teredo address. -/
def teredo_client : BitVec 128 → Option IPAddress := fun bits =>
  if bits >>> 96 = 0x20010000 then some (.v4 ((~~~bits).setWidth 32)) else none

/-- `_embedded_ipv4`: the IPv4 address carried by a transition address, else the input. -/
def embedded_ipv4 : IPAddress → IPAddress
  | .v4 bits => .v4 bits
  | .v6 bits scope_id =>
    ((ipv4_mapped bits).orElse fun _ => (sixtofour bits).orElse fun _ => teredo_client bits).getD
      (.v6 bits scope_id)

/-- The shared address space `100.64.0.0/10`. -/
def in_shared_address_space : IPAddress → Bool
  | .v4 bits => bits >>> 22 = 0x64400000 >>> 22
  | .v6 _ _ => false

end IPAddress

/-- The parts of a URL; reading the port can fail. -/
structure SplitUrl where
  scheme : String
  netloc : String
  path : String
  query : String
  hostname : Option String
  port : Option (Option ℕ)

/-- `ipaddress`, `urlsplit` and `urljoin`. -/
structure NetworkLibrary where
  urlsplit : String → Option SplitUrl
  urljoin : String → String → Option String
  ip_address : String → Option IPAddress
  str : IPAddress → String
  is_loopback : IPAddress → Bool
  is_multicast : IPAddress → Bool
  is_reserved : IPAddress → Bool
  is_unspecified : IPAddress → Bool
  is_link_local : IPAddress → Bool
  is_private : IPAddress → Bool
  is_global : IPAddress → Bool
  /-- The text of an address is read as that address. -/
  ip_address_str : ∀ text address, ip_address text = some address →
    ip_address (str address) = some address

structure AddressPolicy where
  allow_loopback : Bool := false
  allowed_ports : List ℕ := [443]

/-- A checked https address split into the parts a connection needs. -/
structure ValidatedUrl where
  url : String
  host : String
  port : ℕ
  path_and_query : String

def MAXIMUM_URL_LENGTH : ℕ := 4096

def host_character (c : Char) : Bool :=
  c.isAlphanum || c == '.' || c == '-'

section Checks

variable (library : NetworkLibrary) (policy : AddressPolicy)

/-- Parse an address literal or raise the given failure code. -/
def parse_literal (text : String) (code : String) : Except Raised IPAddress :=
  match library.ip_address text with
  | none => fail (address_failure code)
  | some address => .ok address

/-- The host is a literal in brackets, or has the characters of a name. -/
def check_host (netloc host : String) : Except Raised Unit :=
  if netloc.toList.head? = some '[' then do
    let _ ← parse_literal library host "download_address"
    return ()
  else
    raise_if (¬ host.toList.all host_character = true)
      (.application (address_failure "download_address"))

/-- Accept a plain ASCII https address on an allowed port, or refuse it. -/
def validate_url (url : String) : Except Raised ValidatedUrl := do
  let refused : Raised := .application (address_failure "download_address")
  raise_if (MAXIMUM_URL_LENGTH < url.length ∨ '#' ∈ url.toList) refused
  raise_if ((url.toList.any fun c => c < '!' || '~' < c) = true) refused
  match library.urlsplit url with
  | none => .error refused
  | some parts =>
    match parts.port with
    | none => .error refused
    | some explicit_port => do
      let host := parts.hostname.getD ""
      raise_if (parts.scheme ≠ "https" ∨ host = "" ∨ '@' ∈ parts.netloc.toList) refused
      check_host library parts.netloc host
      let port := explicit_port.getD 443
      raise_if (port ∉ policy.allowed_ports) refused
      let path := if parts.path = "" then "/" else parts.path
      return { url, host, port,
               path_and_query := if parts.query = "" then path else path ++ "?" ++ parts.query }

/-- Refuse any address (or embedded IPv4 address) that is not public. -/
def check_address (address : IPAddress) : Except Raised Unit :=
  let blocked : Raised := .application (address_failure "download_address_blocked")
  let candidate := address.embedded_ipv4
  if library.is_loopback candidate = true then
    raise_if (policy.allow_loopback = false) blocked
  else
    raise_if ((library.is_multicast candidate || library.is_reserved candidate
        || library.is_unspecified candidate || library.is_link_local candidate
        || library.is_private candidate || candidate.in_shared_address_space
        || !library.is_global candidate) = true) blocked

/-- The loop over the answers of a resolver. -/
def check_answers : List String → List String → Except Raised (List String)
  | [], addresses => .ok addresses
  | text :: rest, addresses => do
    let address ← parse_literal library text "download_address_blocked"
    check_address library policy address
    check_answers rest (if text ∈ addresses then addresses else addresses ++ [text])

/-- Resolve a host once; every answer must pass. -/
def resolve_and_check (getaddrinfo : String → Option (List String)) (host : String) :
    Except Raised (List String) :=
  match library.ip_address host with
  | some literal => do
    check_address library policy literal
    return [library.str literal]
  | none =>
    match getaddrinfo host with
    | none => fail (address_failure "download_address_unresolved")
    | some records => do
      let addresses ← check_answers library policy records []
      raise_if (addresses = []) (.application (address_failure "download_address_unresolved"))
      return addresses

end Checks

/-! ### Requests -/

/-- The transport: its policy, the authorization of each host, and its limit of redirects. -/
structure SecureTransport where
  policy : AddressPolicy := {}
  authorization : Dict String := .empty
  maximum_redirects : ℕ := 5

inductive RequestMethod where
  | GET
  | HEAD
  deriving DecidableEq

/-- What the caller asks for. -/
structure OpenRequest where
  method : RequestMethod := .GET
  headers : Dict String := .empty
  byte_range : Option (ℕ × Option ℕ) := none
  if_range : Option String := none

/-- A request on its way. -/
structure SentRequest where
  method : RequestMethod
  path_and_query : String
  headers : Dict String
  deriving DecidableEq

/-- What a server answers. -/
structure ServerResponse where
  status : ℕ
  headers : List (String × String)

/-- The response that `open` returns, with lower-cased headers. -/
structure OpenedResponse where
  status : ℕ
  headers : Dict String
  final_url : String
  deriving DecidableEq

/-- What happens at each hop: the answer of the resolver, whether the connection is opened, and the
answer to the request. -/
structure Network where
  getaddrinfo : ℕ → String → Option (List String)
  connects : ℕ → Bool
  respond : ℕ → SentRequest → Option ServerResponse

/-- One connection: for which URL, to which address and host, and the request that was sent. -/
structure Connection where
  url : String
  address : String
  host : String
  port : ℕ
  request : Option SentRequest
  deriving DecidableEq

def REDIRECT_STATUSES : List ℕ := [301, 302, 303, 307, 308]
def MAXIMUM_LOCATION_LENGTH : ℕ := 4096
def USER_AGENT : String := "stegolab-dataset-fetch/0.1"

def RESERVED_HEADERS : List String :=
  ["host", "authorization", "user-agent", "accept-encoding", "range", "if-range"]

/-- Format the Host header, bracketing IPv6 literals and showing odd ports. -/
def host_header (target : ValidatedUrl) : String :=
  let host := if ':' ∈ target.host.toList then "[" ++ target.host ++ "]" else target.host
  if target.port = 443 then host else host ++ ":" ++ toString target.port

/-- Add a header when there is a value for it. -/
def with_header (headers : Dict String) (name : String) (value : Option String) : Dict String :=
  match value with
  | none => headers
  | some value => headers.insert name value

/-- The text of a `Range` header. -/
def range_text (byte_range : ℕ × Option ℕ) : String :=
  "bytes=" ++ toString byte_range.1 ++ "-" ++ (byte_range.2.map toString).getD ""

/-- The headers that `_send` sends. -/
def request_headers (transport : SecureTransport) (target : ValidatedUrl)
    (request : OpenRequest) : Dict String :=
  let headers := Dict.of_items (request.headers.entries.filter fun header =>
    Text.lower header.1 ∉ RESERVED_HEADERS)
  let headers := headers.insert "Host" (host_header target)
  let headers := headers.insert "User-Agent" USER_AGENT
  let headers := headers.insert "Accept-Encoding" "identity"
  let headers := with_header headers "Range" (request.byte_range.map range_text)
  let headers := with_header headers "If-Range" request.if_range
  with_header headers "Authorization" (transport.authorization.get? target.host)

/-- `response.getheader(name)`: all values of a header, in any case of its name. -/
def ServerResponse.getheader (response : ServerResponse) (name : String) : Option String :=
  match (response.headers.filter fun header => Text.lower header.1 = name).map Prod.snd with
  | [] => none
  | values => some (", ".intercalate values)

abbrev TransportProgram (α : Type) : Type :=
  Transaction (List Connection) Raised α

section Open

variable (library : NetworkLibrary) (transport : SecureTransport) (network : Network)

/-- `_send`: connect to one checked address and send the headers. -/
def send (hop : ℕ) (target : ValidatedUrl) (address : String) (request : OpenRequest) :
    TransportProgram ServerResponse := do
  let sent : SentRequest :=
    { method := request.method, path_and_query := target.path_and_query,
      headers := request_headers transport target request }
  let connection : Connection :=
    { url := target.url, address, host := target.host, port := target.port, request := none }
  let log ← read
  if network.connects hop = false then do
    write (log ++ [connection])
    liftM (fail (α := ServerResponse) (transport_failure "download_connection"))
  else do
    write (log ++ [{ connection with request := some sent }])
    match network.respond hop sent with
    | none => liftM (fail (α := ServerResponse) (transport_failure "download_connection"))
    | some response => return response

/-- `resolve_and_check(target.host)[0]`. -/
def first_address (addresses : List String) : Except Raised String :=
  match addresses with
  | [] => .error .value_error
  | address :: _ => .ok address

/-- The address of the next hop. -/
def redirect_target (current_url : String) (response : ServerResponse) : Except Raised String := do
  let location := (response.getheader "location").getD ""
  raise_if (location = "" ∨ MAXIMUM_LOCATION_LENGTH < location.length)
    (.application (address_failure "download_address"))
  match library.urljoin current_url location with
  | none => .error .value_error
  | some url => return url

/-- The loop of `open`, with the hops that are left. -/
def open_hops (request : OpenRequest) : ℕ → ℕ → String → TransportProgram OpenedResponse
  | 0, _, _ => liftM (fail (α := OpenedResponse) (transport_failure "download_redirect_limit"))
  | remaining + 1, hop, current_url => do
    let target ← liftM (validate_url library transport.policy current_url)
    let addresses ← liftM (resolve_and_check library transport.policy (network.getaddrinfo hop)
      target.host)
    let address ← liftM (first_address addresses)
    let response ← send transport network hop target address request
    if response.status ∈ REDIRECT_STATUSES then do
      let url ← liftM (redirect_target library current_url response)
      open_hops request remaining (hop + 1) url
    else
      return { status := response.status
               headers := Dict.of_items (response.headers.map fun header =>
                 (Text.lower header.1, header.2))
               final_url := current_url }

/-- `open`: send one request and return the first response that is not a redirect. -/
def open_url (request : OpenRequest) (url : String) : TransportProgram OpenedResponse :=
  open_hops library transport network request (transport.maximum_redirects + 1) 0 url

end Open

end StegoLab
