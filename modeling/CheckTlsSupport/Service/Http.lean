import CheckTlsSupport.Report

/-!
# The two HTTP servers

`main` serves two handler chains. The HTTPS one, `tlsMux`, is
`protoHandler{logHandler{m}, "https"}`, where `m` routes `/healthcheck` to
`healthcheck` and every other path to `apiHandler`; that handler hijacks the
connection and writes the report of its TLS handshake. The HTTP one,
`plaintextMux`, is `protoHandler{logHandler{m}, "http"}`, where `m` routes every
other path to `commonRedirect`.

`protoHandler` overwrites `X-Forwarded-Proto` before anything reads it. So on
the HTTP server the test for `https` in `commonRedirect` never holds, and no
reply carries `Strict-Transport-Security` (`plaintextMux_reply`). On the HTTPS
server `apiHandler` sets `ok = true` over the origin allower's verdict, so every
request is answered with the report, status 200 and the headers of
`defaultResponseHeaders` (`tlsMux_report`).

The standard library's part is modelled as far as these replies depend on it:
`ServeMux` refuses the request URI `*`, redirects a path `cleanPath` changes,
and hands every other request to the handler of its pattern; `http.Redirect`
sets `Location`. A header maps canonical keys to values, and the handlers use
only canonical keys. The bodies written through the `ResponseWriter` are left
out, and so are the log lines and the expvar counters.
-/

namespace CheckTlsSupport.Service

open Tls110

/-- `http.Header` on canonical keys. -/
structure Header where
  values : String → List String

/-- `make(http.Header)`. -/
def Header.empty : Header := ⟨fun _ => []⟩

/-- `h.Get(key)`: the first value, or `""`. -/
def Header.get (h : Header) (key : String) : String := (h.values key).headD ""

/-- `h.Set(key, value)`. -/
def Header.set (h : Header) (key value : String) : Header := ⟨Function.update h.values key [value]⟩

@[simp] theorem Header.empty_values (key : String) : Header.empty.values key = [] := rfl

@[simp] theorem Header.set_values_self (h : Header) (key value : String) :
    (h.set key value).values key = [value] :=
  Function.update_same _ _ _

@[simp] theorem Header.set_values_of_ne (h : Header) {key key' : String} (value : String)
    (hne : key' ≠ key) : (h.set key value).values key' = h.values key' :=
  Function.update_noteq hne _ _

def hstsHeaderValue : String := "max-age=31536000; includeSubdomains; preload"

def xForwardedProto : String := "X-Forwarded-Proto"

/-- `*url.Userinfo`: the name and, when one is set, the password. -/
structure Userinfo where
  username : String
  password : Option String

/-- The fields of a request's `*url.URL` that `String()` reads; `opaqueData` is
`Opaque` and `escapedPath` is `EscapedPath()`. `ParseRequestURI` splits off no
fragment, so a request's URL has none. -/
structure URL where
  scheme : String
  opaqueData : String
  user : Option Userinfo
  host : String
  path : String
  escapedPath : String
  rawQuery : String
  forceQuery : Bool

/-- The fields of an `http.Request` the handlers read. -/
structure Request where
  method : String
  requestURI : String
  url : URL
  protoMajor : Nat
  protoMinor : Nat
  header : Header

/-- `r.URL.Path`. -/
def Request.path (r : Request) : String := r.url.path

/-- What a `render` function marshals: a report, or a fixed text. -/
inductive Body
  | report (data : ClientInfo)
  | text (s : String)

/-- What a `render` function returns when marshalling succeeds. -/
structure Rendered where
  body : Body
  status : Nat
  contentType : String
  signature : String

/-- What the server sends for one request: a response through the
`ResponseWriter`, whose body is not modelled; a response written on the hijacked
connection; the canned response of `hijacked500`; a panic, which the server
recovers from; or nothing. -/
inductive Reply
  | written (status : Nat) (header : Header)
  | hijacked (status : Nat) (header : Header) (body : Body)
  | hijacked500
  | panicked (msg : String)
  | nothing

/-- `disallowedOriginBody`. -/
def disallowedOriginBody : String :=
  "\x7b\"error\": \"See tls_version for the sign up link\", \"tls_version\": \"Err 0 The " ++
    "website calling tls.support\x27s API has been making many calls and does not have a " ++
    "subscription. See https://tls.support/ for more information.\"\x7d"

/-- `allowedRenderJSON` on a report: `sign` is the base64 HMAC-SHA256 of the
marshalled report under the secret. `json.MarshalIndent` does not fail on a
`clientInfo`. -/
def allowedRenderJSON (sign : ClientInfo → String) (data : ClientInfo) : Rendered :=
  ⟨.report data, 200, "application/json", sign data⟩

def disallowedRenderJSON (_ : ClientInfo) : Rendered :=
  ⟨.text disallowedOriginBody, 400, "application/json", ""⟩

/-- `defaultResponseHeaders` with the time `date`. -/
def defaultResponseHeaders (h : Header) (date : String) (r : Request)
    (contentType signature : String) : Header :=
  let h := h.set "Date" date
  let h := h.set "Content-Type" contentType
  let h := h.set "X-Response-Signature" signature
  let h := if r.protoMajor = 1 ∧ r.protoMinor = 1 then h.set "Connection" "close" else h
  let h := h.set "Strict-Transport-Security" hstsHeaderValue
  let h := h.set "Access-Control-Allow-Origin" "*"
  let h := h.set "Access-Control-Allow-Headers" "X-Response-Signature, Content-Type"
  let h := h.set "Access-Control-Expose-Headers" "X-Response-Signature, Content-Type"
  h.set "Access-Control-Allow-Methods" "GET, POST, OPTIONS, HEAD"

/-- `http.Error`: its headers and status. -/
def httpError (code : Nat) : Reply :=
  .written code ((Header.empty.set "Content-Type" "text/plain; charset=utf-8").set
    "X-Content-Type-Options" "nosniff")

/-- What `hijackHandle` finds: a `ResponseWriter` that is no `http.Hijacker`, a
`Hijack` that fails, or the hijacked connection, which is a `*conn` (given by
its TLS connection) or not. -/
inductive Hijack
  | notHijacker
  | failed
  | hijacked (tc : Option Conn)

/-- `hijackHandle`. `pullClientInfo(tc)` reads `tc.ConnectionState()`, and
either panics. The dump of the response does not fail on an in-memory body. -/
def hijackHandle (cat : Catalogue) (date : String) (hj : Hijack) (r : Request)
    (render : ClientInfo → Rendered) : Reply :=
  match hj with
  | .notHijacker => httpError 500
  | .failed => .nothing
  | .hijacked none => .hijacked500
  | .hijacked (some tc) =>
    match tc.connectionState.bind (pullClientInfo cat) with
    | .error msg => .panicked msg
    | .ok data =>
      let out := render data
      .hijacked out.status (defaultResponseHeaders .empty date r out.contentType out.signature)
        out.body

/-- `apiHandler.ServeHTTP`: `ok = true` overwrites the origin allower's verdict
before the branch that reads it. -/
def apiHandler (cat : Catalogue) (sign : ClientInfo → String) (date : String) (hj : Hijack)
    (r : Request) : Reply :=
  let ok := true
  hijackHandle cat date hj r (if ok then allowedRenderJSON sign else disallowedRenderJSON)

/-- `healthcheck`: status 200; its body `ok` is not modelled. -/
def healthcheck (_ : Request) : Reply := .written 200 .empty

/-- `hexEscapeNonASCII`: every byte at or above `0x80` of the UTF-8 encoding
becomes `%` and its hexadecimal digits. -/
def hexEscapeNonASCII (s : String) : String :=
  String.join (s.toList.map fun c =>
    if c.toNat < 0x80 then c.toString
    else String.join ((String.utf8EncodeChar c).map fun b => "%" ++ sprintfHex b.toNat))

/-- The modes of `escape` that `URL.String` uses. -/
inductive Encoding
  | path
  | userPassword
  | host
  deriving DecidableEq

/-- `shouldEscape(c, mode)` of `net/url`: letters and digits stay, and so do the
sub-delimiters a host allows and the unreserved marks; of the reserved bytes a
path escapes only `?` and a user name or password `@`, `/`, `?` and `:`; every
other byte is escaped. -/
def shouldEscape (c : UInt8) (mode : Encoding) : Bool :=
  let ch := Char.ofNat c.toNat
  if ch.isAlphanum then false
  else if mode = .host ∧ "!$&\x27()*+,;=:[]<>\"".data.contains ch then false
  else if "-_.~".data.contains ch then false
  else if "$&+,/:;=?@".data.contains ch then
    match mode with
    | .path => ch = '?'
    | .userPassword => ch = '@' ∨ ch = '/' ∨ ch = '?' ∨ ch = ':'
    | .host => true
  else true

def upperHexDigit (n : Nat) : Char := "0123456789ABCDEF".data.getD n '0'

/-- `escape(s, mode)`: every byte of the UTF-8 encoding that `shouldEscape` picks
becomes `%` and two uppercase hexadecimal digits. -/
def escape (s : String) (mode : Encoding) : String :=
  String.join ((s.data.flatMap String.utf8EncodeChar).map fun b =>
    if shouldEscape b mode then
      "%" ++ (upperHexDigit (b.toNat / 16)).toString ++ (upperHexDigit (b.toNat % 16)).toString
    else (Char.ofNat b.toNat).toString)

/-- `u.String()` of a `Userinfo`. -/
def Userinfo.string (u : Userinfo) : String :=
  escape u.username .userPassword ++
    match u.password with
    | some p => ":" ++ escape p .userPassword
    | none => ""

/-- `u.String()` of a URL without a fragment. -/
def URL.string (u : URL) : String :=
  let s := if u.scheme ≠ "" then u.scheme ++ ":" else ""
  let s :=
    if u.opaqueData ≠ "" then s ++ u.opaqueData
    else
      let s :=
        if u.scheme ≠ "" ∨ u.host ≠ "" ∨ u.user.isSome then
          s ++ (if u.host ≠ "" ∨ u.path ≠ "" ∨ u.user.isSome then "//" else "") ++
            (match u.user with
              | some ui => ui.string ++ "@"
              | none => "") ++
            (if u.host ≠ "" then escape u.host .host else "")
        else s
      let path := u.escapedPath
      let s := if path ≠ "" ∧ path.front ≠ '/' ∧ u.host ≠ "" then s ++ "/" else s
      let s := if s = "" ∧ ':' ∈ path.data.takeWhile (· != '/') then "./" else s
      s ++ path
  if u.forceQuery ∨ u.rawQuery ≠ "" then s ++ "?" ++ u.rawQuery else s

/-- `path.Clean` on the elements of a path: empty and `.` elements go, and `..`
takes the element before it; with none before it, a rooted path drops it and a
relative one keeps it, as it keeps a `..` before it. -/
def cleanElements (rooted : Bool) : List (List Char) → List (List Char) → List (List Char)
  | acc, [] => acc.reverse
  | acc, e :: rest =>
    if e = [] ∨ e = ['.'] then cleanElements rooted acc rest
    else if e = ['.', '.'] then
      match acc with
      | a :: acc' =>
        if a = ['.', '.'] then cleanElements rooted (e :: acc) rest
        else cleanElements rooted acc' rest
      | [] => cleanElements rooted (if rooted then [] else [e]) rest
    else cleanElements rooted (e :: acc) rest

/-- `path.Clean`. -/
def pathClean (p : List Char) : List Char :=
  if p = [] then ['.'] else
    let rooted := p.head? = some '/'
    let elems := ['/'].intercalate (cleanElements rooted [] (p.splitOn '/'))
    if rooted then '/' :: elems else if elems = [] then ['.'] else elems

/-- The directory `path.Split` gives: the path up to and including its last `/`. -/
def pathDir (p : String) : String := String.mk (p.data.reverse.dropWhile (· != '/')).reverse

/-- What `http.Redirect` makes of a relative URL against the request's path
`oldpath`: rooted at the directory of `oldpath`, cleaned with its trailing slash
kept, and its query put back. -/
def redirectPath (oldpath url : String) : String :=
  let oldpath := if oldpath = "" then "/" else oldpath
  let url := if url = "" ∨ url.front ≠ '/' then pathDir oldpath ++ url else url
  let query := url.data.dropWhile (· != '?')
  let url := url.data.takeWhile (· != '?')
  let trailing := url.getLast? = some '/'
  let url := pathClean url
  let url := if trailing ∧ url.getLast? ≠ some '/' then url ++ ['/'] else url
  String.mk (url ++ query)

/-- The URL `http.Redirect(w, r, u.String(), code)` sends: `Parse` gives back
the scheme and host of a request's URL, and one with neither is relative. -/
def redirectURL (r : Request) (u : URL) : String :=
  if u.scheme = "" ∧ u.host = "" then redirectPath r.path u.string else u.string

/-- `http.Redirect(w, r, u.String(), code)`: `Location`, and an HTML content type
for `GET` and `HEAD` when none is set. -/
def httpRedirect (h : Header) (r : Request) (u : URL) (code : Nat) : Reply :=
  let hadCT := h.values "Content-Type" ≠ []
  let h := h.set "Location" (hexEscapeNonASCII (redirectURL r u))
  let h := if ¬hadCT ∧ (r.method = "GET" ∨ r.method = "HEAD") then
    h.set "Content-Type" "text/html; charset=utf-8" else h
  .written code h

/-- The handler of `commonRedirect`: the request's URL with scheme `https` and
host `tls.support`. -/
def commonRedirect (r : Request) : Reply :=
  let h := if r.header.get xForwardedProto = "https" then
    Header.empty.set "Strict-Transport-Security" hstsHeaderValue else Header.empty
  httpRedirect h r { r.url with scheme := "https", host := "tls.support" } 301

def protoHandler (inner : Request → Reply) (proto : String) (r : Request) : Reply :=
  inner { r with header := r.header.set xForwardedProto proto }

/-- `logHandler` prints a line and passes the request on. -/
def logHandler (inner : Request → Reply) (r : Request) : Reply := inner r

/-- `cleanPath` of `net/http`: the path rooted and cleaned, its trailing slash
kept. -/
def cleanPath (p : String) : String :=
  if p = "" then "/" else
    let p := if p.data.head? = some '/' then p.data else '/' :: p.data
    let np := pathClean p
    String.mk (if p.getLast? = some '/' ∧ np ≠ ['/'] then np ++ ['/'] else np)

/-- `mux.handler(host, path)` for the exact pattern `/healthcheck` and the
subtree pattern `/`: the exact match, else `/` when it is a prefix, else
NotFound. -/
def muxHandler (healthcheckHandler other : Request → Reply) (r : Request) : Reply :=
  if r.path = "/healthcheck" then healthcheckHandler r
  else if r.path.data.head? = some '/' then other r
  else httpError 404

/-- `ServeMux.ServeHTTP` with those two patterns. The request URI `*` is
refused. A request other than `CONNECT` whose path `cleanPath` changes is
redirected permanently to a copy of its URL with the clean path; the copy's
`RawPath` was made for the old path, so its `EscapedPath` escapes the new one.
Every other request goes to `muxHandler`; the redirect to a trailing slash never
applies to these patterns. -/
def serveMux (healthcheckHandler other : Request → Reply) (r : Request) : Reply :=
  if r.requestURI = "*" then
    .written 400 (if r.protoMajor > 1 ∨ r.protoMajor = 1 ∧ r.protoMinor ≥ 1 then
      Header.empty.set "Connection" "close" else .empty)
  else if r.method ≠ "CONNECT" ∧ cleanPath r.path ≠ r.path then
    httpRedirect .empty r
      { r.url with path := cleanPath r.path, escapedPath := escape (cleanPath r.path) .path } 301
  else muxHandler healthcheckHandler other r

/-- The HTTPS server's handler, for a request whose connection `apiHandler`
would find as `hj`. -/
def tlsMux (cat : Catalogue) (sign : ClientInfo → String) (date : String) (hj : Hijack) :
    Request → Reply :=
  protoHandler (logHandler (serveMux healthcheck (apiHandler cat sign date hj))) "https"

def plaintextMux : Request → Reply :=
  protoHandler (logHandler (serveMux healthcheck commonRedirect)) "http"

/-- The headers of every API response. -/
theorem defaultResponseHeaders_get (date : String) (r : Request) (contentType signature : String) :
    (defaultResponseHeaders .empty date r contentType signature).get "Strict-Transport-Security" =
        hstsHeaderValue ∧
      (defaultResponseHeaders .empty date r contentType signature).get
        "Access-Control-Allow-Origin" = "*" ∧
      (defaultResponseHeaders .empty date r contentType signature).get "Content-Type" =
        contentType ∧
      (defaultResponseHeaders .empty date r contentType signature).get "X-Response-Signature" =
        signature ∧
      ((defaultResponseHeaders .empty date r contentType signature).get "Connection" = "close" ↔
        r.protoMajor = 1 ∧ r.protoMinor = 1) := by
  unfold defaultResponseHeaders
  by_cases h11 : r.protoMajor = 1 ∧ r.protoMinor = 1 <;> simp [Header.get, h11]

/-- A reply written through the `ResponseWriter` without
`Strict-Transport-Security`. -/
def WrittenWithoutHsts (rep : Reply) : Prop :=
  ∃ status h, rep = .written status h ∧ h.values "Strict-Transport-Security" = []

/-- `http.Redirect` sets `Location` and leaves `Strict-Transport-Security` as it
found it. -/
theorem httpRedirect_eq (h : Header) (r : Request) (u : URL) (code : Nat) :
    ∃ h', httpRedirect h r u code = .written code h' ∧
      h'.get "Location" = hexEscapeNonASCII (redirectURL r u) ∧
      h'.values "Strict-Transport-Security" = h.values "Strict-Transport-Security" := by
  unfold httpRedirect
  dsimp only
  refine ⟨_, rfl, ?_, ?_⟩ <;> split_ifs <;> simp [Header.get]

/-- A URL with a scheme is sent as it is. -/
theorem redirectURL_of_scheme (r : Request) {u : URL} (h : u.scheme ≠ "") :
    redirectURL r u = u.string := by
  simp [redirectURL, h]

/-- `commonRedirect` sends the request's URL on `https://tls.support`, and
`Strict-Transport-Security` only when the request says it came over `https`. -/
theorem commonRedirect_hsts (r : Request) :
    ∃ h, commonRedirect r = .written 301 h ∧
      h.get "Location" = hexEscapeNonASCII { r.url with scheme := "https", host := "tls.support" }.string ∧
      (h.values "Strict-Transport-Security" ≠ [] ↔ r.header.get xForwardedProto = "https") := by
  obtain ⟨h, he, hloc, hh⟩ := httpRedirect_eq (if r.header.get xForwardedProto = "https" then
    Header.empty.set "Strict-Transport-Security" hstsHeaderValue else Header.empty) r
    { r.url with scheme := "https", host := "tls.support" } 301
  have hs := @redirectURL_of_scheme r { r.url with scheme := "https", host := "tls.support" }
    (by decide : "https" ≠ "")
  refine ⟨h, he, hloc.trans (by rw [hs]), ?_⟩
  rw [hh]
  split_ifs with hp <;> simp [hp]

/-- `ServeMux` writes no `Strict-Transport-Security` of its own. -/
theorem serveMux_without_hsts {hc other : Request → Reply} {r : Request}
    (hhc : WrittenWithoutHsts (hc r)) (hother : WrittenWithoutHsts (other r)) :
    WrittenWithoutHsts (serveMux hc other r) := by
  unfold serveMux
  split
  · exact ⟨_, _, rfl, by split <;> simp⟩
  split
  · obtain ⟨h', he, -, hh⟩ := httpRedirect_eq .empty r
      { r.url with path := cleanPath r.path, escapedPath := escape (cleanPath r.path) .path } 301
    exact ⟨_, _, he, hh⟩
  unfold muxHandler
  split
  · exact hhc
  split
  · exact hother
  · exact ⟨_, _, rfl, by simp⟩

theorem pathClean_head {p : List Char} (h : p.head? = some '/') : (pathClean p).head? = some '/' := by
  cases p with
  | nil => cases h
  | cons a p => simp [pathClean, h]

theorem cleanPath_head (p : String) : (cleanPath p).data.head? = some '/' := by
  unfold cleanPath
  by_cases h0 : p = ""
  · rw [if_pos h0]
    rfl
  rw [if_neg h0]
  dsimp only
  generalize hq : (if p.data.head? = some '/' then p.data else '/' :: p.data) = q
  have hr : (pathClean q).head? = some '/' :=
    pathClean_head (by rw [← hq]; split_ifs with h <;> simp [h])
  split_ifs <;> simp [hr]

/-- On a clean path, `ServeMux` hands the request to the handler of its
pattern. -/
theorem serveMux_of_clean {hc other : Request → Reply} {r : Request} (hu : r.requestURI ≠ "*")
    (hclean : cleanPath r.path = r.path) :
    serveMux hc other r = if r.path = "/healthcheck" then hc r else other r := by
  have hhead : r.path.data.head? = some '/' := by
    rw [← hclean]
    exact cleanPath_head _
  simp [serveMux, muxHandler, hu, hclean, hhead]

/-- Every reply of the HTTP server is written without
`Strict-Transport-Security`, whatever the request's headers say, since
`protoHandler` has set `X-Forwarded-Proto` to `http` before `commonRedirect`
reads it. A request that reaches a handler with a path other than
`/healthcheck` is redirected permanently to its own URL, user information,
path and query included, with the scheme `https` and the host `tls.support`. -/
theorem plaintextMux_reply (r : Request) :
    ∃ status h, plaintextMux r = .written status h ∧ h.values "Strict-Transport-Security" = [] ∧
      (r.requestURI ≠ "*" → cleanPath r.path = r.path → r.path ≠ "/healthcheck" →
        status = 301 ∧ h.get "Location" =
          hexEscapeNonASCII { r.url with scheme := "https", host := "tls.support" }.string) := by
  let r' : Request := { r with header := r.header.set xForwardedProto "http" }
  obtain ⟨h, hr, hloc, hsts⟩ := commonRedirect_hsts r'
  have hnone : h.values "Strict-Transport-Security" = [] := by
    by_contra hne
    simpa [r', Header.get, xForwardedProto] using hsts.mp hne
  obtain ⟨status, h', he, hh⟩ := @serveMux_without_hsts healthcheck commonRedirect r'
    ⟨200, .empty, rfl, rfl⟩ ⟨301, h, hr, hnone⟩
  refine ⟨status, h', he, hh, fun hu hclean hp => ?_⟩
  rw [@serveMux_of_clean healthcheck commonRedirect r' hu hclean,
    if_neg (show r'.path ≠ "/healthcheck" from hp), hr] at he
  obtain ⟨rfl, rfl⟩ := Reply.written.inj he
  exact ⟨rfl, hloc⟩

/-- The target `http://user@x/foo` keeps its user, and `/foo?` its empty query. -/
example : ({ (⟨"http", "", some ⟨"user", none⟩, "x", "/foo", "/foo", "", false⟩ : URL) with
      scheme := "https", host := "tls.support" }).string = "https://user@tls.support/foo" ∧
    ({ (⟨"", "", none, "", "/foo", "/foo", "", true⟩ : URL) with
      scheme := "https", host := "tls.support" }).string = "https://tls.support/foo?" := by
  decide

/-- The HTTPS server answers every request that reaches a handler with a path
other than `/healthcheck` with the report of the hijacked connection: on a
reachable server connection whose handshake is complete, as it is once the
server has read a request over it, the reply is the report and its signature
with status 200, `Strict-Transport-Security`, the CORS headers, and
`Connection: close` exactly for HTTP/1.1. -/
theorem tlsMux_report (cat : Catalogue) (sign : ClientInfo → String) (date : String) {c : Conn}
    (h : Reachable c) (hs : c.isClient = false) (hc : c.handshakeComplete = true) (r : Request)
    (hu : r.requestURI ≠ "*") (hclean : cleanPath r.path = r.path) (hp : r.path ≠ "/healthcheck") :
    ∃ st d hd, c.connectionState = .ok st ∧ pullClientInfo cat st = .ok d ∧
      tlsMux cat sign date (.hijacked (some c)) r = .hijacked 200 hd (.report d) ∧
      hd.get "Strict-Transport-Security" = hstsHeaderValue ∧ hd.get "Access-Control-Allow-Origin" = "*" ∧
      hd.get "Content-Type" = "application/json" ∧ hd.get "X-Response-Signature" = sign d ∧
      (hd.get "Connection" = "close" ↔ r.protoMajor = 1 ∧ r.protoMinor = 1) := by
  obtain ⟨ch, -, hst⟩ := connectionState_of_reachable h hs hc
  refine ⟨_, _, _, hst, pullClientInfo_of_handshakeComplete cat _ rfl, ?_, defaultResponseHeaders_get
    date { r with header := r.header.set xForwardedProto "https" } "application/json" _⟩
  rw [show tlsMux cat sign date (.hijacked (some c)) r = _ from
    @serveMux_of_clean healthcheck (apiHandler cat sign date (.hijacked (some c)))
      { r with header := r.header.set xForwardedProto "https" } hu hclean,
    if_neg (show ({ r with header := r.header.set xForwardedProto "https" } : Request).path ≠
      "/healthcheck" from hp)]
  simp [apiHandler, hijackHandle, hst, Except.bind, pullClientInfo, allowedRenderJSON]

/-- `GET /` over HTTP/1.1. -/
def getRoot : Request := ⟨"GET", "/", ⟨"", "", none, "", "/", "/", "", false⟩, 1, 1, .empty⟩

theorem tlsMux_report_completedServer :
    Reachable completedServer ∧ completedServer.isClient = false ∧
      completedServer.handshakeComplete = true ∧
      getRoot.requestURI ≠ "*" ∧ cleanPath getRoot.path = getRoot.path ∧
      getRoot.path ≠ "/healthcheck" ∧
      ∃ st d hd, completedServer.connectionState = .ok st ∧ pullClientInfo sampleCatalogue st = .ok d ∧
        tlsMux sampleCatalogue (fun _ => "") "" (.hijacked (some completedServer)) getRoot =
          .hijacked 200 hd (.report d) ∧
        hd.get "Strict-Transport-Security" = hstsHeaderValue ∧
        hd.get "Access-Control-Allow-Origin" = "*" ∧
        hd.get "Content-Type" = "application/json" ∧ hd.get "X-Response-Signature" = "" ∧
        (hd.get "Connection" = "close" ↔ getRoot.protoMajor = 1 ∧ getRoot.protoMinor = 1) :=
  have hr : Reachable completedServer := .step _ (.init _ _)
  ⟨hr, rfl, rfl, by decide, by decide, by decide, tlsMux_report sampleCatalogue (fun _ => "") "" hr
    rfl rfl getRoot (by decide) (by decide) (by decide)⟩

end CheckTlsSupport.Service
