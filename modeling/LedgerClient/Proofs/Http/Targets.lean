import LedgerClient.Client.Basic
import LedgerClient.Http.Exchange
import LedgerClient.Proofs.Url.Paths
import LedgerClient.Query.Basic
import LedgerClient.Settings.Validated

/-!
Where calls over HTTP go. The path of the method takes the place of all that follows the last slash
in the path of the node's address. So the call goes below that path if it ends with a slash, and
otherwise the last name in it is lost.
-/

namespace LedgerClient

variable {rules : Domain.Rules} {text : String} {address : Url} {method : Method}
  {names : List String} {last : String}

/-! ## Paths as text -/

namespace Url

def endsWithSlash (path : String) : Bool :=
  path.toList.getLast? = some '/'

/-- What ends with a slash is taken without it. -/
def trimmed (path : String) : String :=
  if endsWithSlash path then String.ofList path.toList.dropLast else path

theorem endsWithSlash_iff (front : String) (isName : IsName last) :
    endsWithSlash (front ++ "/" ++ last) = true ↔ last = "" := by
  have letters : (front ++ "/" ++ last).toList = front.toList ++ '/' :: last.toList := by simp
  rw [endsWithSlash, letters, decide_eq_true_iff,
    List.getLast?_append_of_ne_nil _ (List.cons_ne_nil _ _)]
  constructor
  · intro ends
    by_contra some
    have named : last.toList ≠ [] := mt String.toList_eq_nil_iff.mp some
    rw [List.getLast?_cons_of_ne_nil named] at ends
    exact isName (List.mem_of_getLast? ends)
  · rintro rfl
    rfl

theorem trimmed_slash (front : String) : trimmed (front ++ "/") = front := by
  have letters : (front ++ "/").toList = front.toList ++ ['/'] := by simp
  simp [trimmed, endsWithSlash, letters]

/-- Without a slash at its end, a path ends before its last slash exactly if nothing follows it. -/
theorem trimmed_eq_iff (front : String) (isName : IsName last) :
    trimmed (front ++ "/" ++ last) = front ↔ last = "" := by
  constructor
  · intro same
    by_contra some
    rw [trimmed, if_neg (mt (endsWithSlash_iff front isName).mp some), String.append_assoc] at same
    have longer := congrArg String.length same
    simp at longer
  · rintro rfl
    exact (congrArg trimmed String.append_empty).trans (trimmed_slash front)

theorem pathText_concat {url : Url} (path : url.path = .segments (names ++ [last])) :
    url.pathText = String.join (names.map ("/" ++ ·)) ++ "/" ++ last := by
  simp [pathText, path, String.append_assoc]

theorem pathText_pair {url : Url} {first second : String}
    (path : url.path = .segments (names ++ [first, second])) :
    url.pathText = String.join (names.map ("/" ++ ·)) ++ "/" ++ (first ++ "/" ++ second) := by
  simp [pathText, path, String.append_assoc]

end Url

/-! ## Methods -/

/-- The name of the method can stand in a path as it is. -/
def Method.IsPlain (method : Method) : Prop :=
  Url.IsPlain method.name

theorem Payload.method_isPlain (payload : Payload) : payload.method.IsPlain := by
  cases payload <;> (dsimp only [method, Method.IsPlain]; decide)

theorem QueryData.method_isPlain (query : QueryData) : query.method.IsPlain := by
  cases query <;> (dsimp only [method, Method.IsPlain]; decide)

theorem Service.name_isPlain (service : Service) : Url.IsPlain service.name := by
  cases service <;> decide

theorem Service.name_ne_empty (service : Service) : service.name ≠ "" := by
  cases service <;> decide

theorem Service.name_isSchemeLetter (service : Service) :
    ∀ letter ∈ service.name.toList, Url.isSchemeLetter letter = true := by
  have all : service.name.toList.all Url.isSchemeLetter = true := by cases service <;> decide
  exact List.all_eq_true.mp all

/-! ## Addresses of nodes -/

theorem Client.nodeAddress_eq_ok (accepted : Client.nodeAddress text rules = .ok address) :
    Url.parse text rules = .ok address ∧ address.isHttp = true := by
  unfold nodeAddress at accepted
  split at accepted
  · cases accepted
  · rename_i url parsed
    split at accepted
    · rename_i http
      cases accepted
      exact ⟨parsed, http⟩
    · cases accepted

/-- What the settings accept as the address of a node, a client accepts as well. -/
theorem Client.nodeAddress_of_validAddress
    (valid : Settings.validAddress rules text = .ok address) :
    Client.nodeAddress text rules = .ok address := by
  unfold Settings.validAddress at valid
  split at valid
  · cases valid
  · rename_i url parsed
    split at valid
    · cases valid
    · rename_i http
      split at valid
      · cases valid
      · cases valid
        simp only [Bool.not_eq_true, Bool.not_eq_false'] at http
        simp [nodeAddress, parsed, http]

/-! ## Requests -/

/-- How a call of the method at the address is requested. -/
structure HttpRequest.Posts (address : Url) (method : Method) (body : Bytes)
    (request : HttpRequest) : Prop where
  body_eq : request.body = body
  /-- The request differs from the address in nothing but the path and what would follow it. -/
  url_eq : request.url = { address with path := request.url.path, query := none, fragment := none }
  /-- All up to the last slash in the path of the address is kept, and nothing behind it. -/
  target_eq : ∃ front last, address.pathText = front ++ "/" ++ last ∧ Url.IsName last ∧
    request.target = front ++ "/" ++ method.path
  /-- The method is asked for below the whole path of the address only if a slash ends that path. -/
  below_iff : request.target = Url.trimmed address.pathText ++ "/" ++ method.path ↔
    Url.endsWithSlash address.pathText = true

/-- The path of a method takes the place of the last name in the path of the address. -/
theorem Method.join_path (path : address.path = .segments (names ++ [last]))
    (plain : method.IsPlain) :
    ∃ url : Url, address.join method.path rules = .ok url ∧
      url.path = .segments (names ++ [method.service.name, method.name]) ∧
      url = { address with path := url.path, query := none, fragment := none } := by
  have joined : address.join method.path rules = _ :=
    Url.join_pair path method.service.name_ne_empty method.service.name_isSchemeLetter
      method.service.name_isPlain plain
  rw [List.dropLast_concat] at joined
  exact ⟨_, joined, rfl, rfl⟩

theorem HttpRequest.posts_of_names {body : Bytes} (isName : Url.IsName last)
    (path : address.path = .segments (names ++ [last])) (plain : method.IsPlain) :
    ∃ request, HttpRequest.ofCall address method body = .ok request ∧
      request.Posts address method body := by
  obtain ⟨url, joined, reached, kept⟩ := method.join_path path plain
  have given := Url.pathText_concat path
  have target : HttpRequest.target ⟨url, body⟩ =
      String.join (names.map ("/" ++ ·)) ++ "/" ++ method.path := by
    have query : url.query = none := congrArg Url.query kept
    rw [HttpRequest.target, Url.pathText_pair reached, Url.queryText, query, String.append_empty,
      Method.path]
  refine ⟨⟨url, body⟩, by rw [ofCall, joined], rfl, kept, ⟨_, last, given, isName, target⟩, ?_⟩
  rw [target, given, String.append_left_inj, String.append_left_inj, eq_comm,
    Url.trimmed_eq_iff _ isName, Url.endsWithSlash_iff _ isName]

/-- A call keeps the whole path of the node's address exactly if that path ends with a slash. This
is so for every address that is accepted for a client, in the settings or as text, and for the methods
of all payloads and queries, however the names of hosts are brought into ASCII. -/
theorem HttpRequest.nodeAddress_posts (accepted : Client.nodeAddress text rules = .ok address ∨
    Settings.validAddress rules text = .ok address) :
    (∀ payload : Payload, payload.method.IsPlain) ∧
      (∀ query : QueryData, query.method.IsPlain) ∧
      ∀ method : Method, method.IsPlain → ∀ body,
        ∃ request, HttpRequest.ofCall address method body = .ok request ∧
          request.Posts address method body := by
  refine ⟨Payload.method_isPlain, QueryData.method_isPlain, fun method plain body => ?_⟩
  have given : Client.nodeAddress text rules = .ok address :=
    accepted.elim id Client.nodeAddress_of_validAddress
  obtain ⟨parsed, http⟩ := Client.nodeAddress_eq_ok given
  obtain ⟨names, path, some, isName⟩ := Url.parse_rooted parsed http
  rw [← List.dropLast_concat_getLast some] at path
  exact HttpRequest.posts_of_names (isName _ (List.getLast_mem some)) path plain

namespace Sample

/-- A node of this machine, whose path has the given names. -/
def localhost (names : List String) : Url where
  scheme := "http"
  user := ""
  password := none
  host := some (.ipv4 2130706433)
  port := some 50211
  path := .segments names
  query := none
  fragment := none

theorem slashed_kept :
    Client.nodeAddress "http://127.0.0.1:50211/api/" = .ok (localhost ["api", ""]) ∧
      ∀ (payload : Payload) (body : Bytes),
        ∃ request, HttpRequest.ofCall (localhost ["api", ""]) payload.method body = .ok request ∧
          request.target = "/api/" ++ payload.method.path := by
  have accepted :
      Client.nodeAddress "http://127.0.0.1:50211/api/" = .ok (localhost ["api", ""]) := rfl
  refine ⟨accepted, fun payload body => ?_⟩
  obtain ⟨plain, -, posts⟩ := HttpRequest.nodeAddress_posts (.inl accepted)
  obtain ⟨request, made, posted⟩ := posts payload.method (plain payload) body
  have target := posted.below_iff.mpr (by decide)
  exact ⟨request, made, target⟩

/-- Without the slash, the only name in the path is lost. -/
theorem unslashed_lost :
    Client.nodeAddress "http://127.0.0.1:50211/api" = .ok (localhost ["api"]) ∧
      ∃ request,
        HttpRequest.ofCall (localhost ["api"]) ⟨.crypto, "cryptoTransfer"⟩ [1] = .ok request ∧
          request.target = "/crypto/cryptoTransfer" ∧
          Url.trimmed (localhost ["api"]).pathText ++ "/" ++ "crypto/cryptoTransfer" =
            "/api/crypto/cryptoTransfer" := by
  refine ⟨rfl, ⟨localhost ["crypto", "cryptoTransfer"], [1]⟩, rfl, ?_, ?_⟩
  · decide
  · decide

end Sample

end LedgerClient
