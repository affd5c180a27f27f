import LedgerClient.Url.Host

/-!
URLs as the web reads them. Node addresses are given as URLs, and the address of a method is a
relative path resolved against them.
-/

namespace LedgerClient

/-- A path is split at its slashes unless its scheme gives it another meaning. -/
inductive UrlPath where
  | segments (names : List String)
  | opaqueText (text : String)
deriving DecidableEq

/-- A URL with all its parts encoded. A port that its scheme implies is left out. -/
structure Url where
  scheme : String
  user : String
  password : Option String
  host : Option Host
  port : Option Nat
  path : UrlPath
  query : Option String
  fragment : Option String
deriving DecidableEq

namespace Url

def defaultPort : String → Option Nat
  | "http" | "ws" => some 80
  | "https" | "wss" => some 443
  | "ftp" => some 21
  | _ => none

/-- Schemes of the web and of files, which let a backslash stand for a slash. -/
def isWeb (scheme : String) : Bool :=
  (defaultPort scheme).isSome || scheme = "file"

def isHttp (url : Url) : Bool :=
  url.scheme = "http" || url.scheme = "https"

theorem isHttp_iff {url : Url} : url.isHttp = true ↔ url.scheme = "http" ∨ url.scheme = "https" := by
  rw [isHttp, Bool.or_eq_true, decide_eq_true_iff, decide_eq_true_iff]

def userText (url : Url) : String :=
  let password := match url.password with
    | none => ""
    | some password => ":" ++ password
  if url.user = "" ∧ url.password = none then "" else url.user ++ password ++ "@"

def portText (url : Url) : String :=
  match url.port with
  | none => ""
  | some port => ":" ++ toString port

def authorityText (url : Url) : String :=
  match url.host with
  | none => ""
  | some host => "//" ++ url.userText ++ host.text ++ url.portText

def pathText (url : Url) : String :=
  match url.path with
  | .segments names => String.join (names.map ("/" ++ ·))
  | .opaqueText text => text

def queryText (url : Url) : String :=
  match url.query with
  | none => ""
  | some query => "?" ++ query

def fragmentText (url : Url) : String :=
  match url.fragment with
  | none => ""
  | some fragment => "#" ++ fragment

def text (url : Url) : String :=
  url.scheme ++ ":" ++ url.authorityText ++ url.pathText ++ url.queryText ++ url.fragmentText

end Url

end LedgerClient
