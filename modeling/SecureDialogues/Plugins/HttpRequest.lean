import SecureDialogues.Communication.Channel
import SecureDialogues.Lib.Effect
import SecureDialogues.Lib.Json
import SecureDialogues.Lib.UrlEncoding

/-!
# Requests of the plugins

`UriBuilder` and `HttpRequest` (`plugins/plugins-libs/curl-wrapper/src`) over libcurl, and what a
server reads in the requests that they make.
-/

namespace SecureDialogues

open Text Effect

/-! ## libcurl -/

/-- The exceptions of `curlexceptions.h`. -/
inductive CurlError where
  | curlEscapeError
  | curlInitError
  | curlHttpSendError (what : Str)
  | curlHttpHeaderError
  deriving DecidableEq, Repr

/-- What `curl_easy_perform` is asked for: the URL, the fields of a POST and the headers. -/
structure Transfer where
  url : Str
  postFields : Option Str
  headers : List Str
  deriving DecidableEq, Repr

/-- libcurl as the plugins use it. -/
structure Curl where
  /-- `CURL_HANDLER` was made. -/
  handler : Bool
  /-- `curl_easy_escape` of a string, or of its first `length` characters. -/
  escape : Str → BitVec 32 → Option Str
  /-- A transfer from `curl_easy_init` to the response, its code and its text. -/
  perform : Transfer → Except CurlError (Int × Str)

/-- `HttpCode::OK`. -/
def httpCodeOk : Int := 200

structure HttpHeader where
  name : Str
  value : Str
  deriving DecidableEq, Repr

namespace HttpRequest

variable (curl : Curl) (uri : Str)

/-- `bind_headers` (`httprequest.cpp:24-36`). -/
def bindHeaders (headers : List HttpHeader) : List Str :=
  headers.map fun header => cstr (header.name ++ str ":" ++ header.value)

/-- `HttpRequest::get` (`httprequest.cpp:61-77`), with or without headers. -/
def get (headers : List HttpHeader) : Except CurlError (Int × Str) :=
  curl.perform { url := cstr uri, postFields := none, headers := bindHeaders headers }

/-- What `HttpRequest::post` hands to libcurl. -/
def postTransfer (body : Str) (headers : List HttpHeader) : Transfer where
  url := cstr uri
  postFields := some (cstr body)
  headers := bindHeaders headers

/-- `HttpRequest::post` (`httprequest.cpp:79-98`). -/
def post (body : Str) (headers : List HttpHeader) : Except CurlError (Int × Str) :=
  curl.perform (postTransfer uri body headers)

end HttpRequest

/-! ## `UriBuilder` -/

/-- `appendEscape` (`uribuilder.cpp:8-18`): what is appended for a text. -/
def appendEscape (curl : Curl) (param : Str) : Except CurlError Str :=
  match curl.escape param (BitVec.ofNat 32 param.length) with
  | some output => .ok output
  | none => .error .curlEscapeError

structure UriBuilder where
  mPath : Str
  mQuery : Str
  deriving DecidableEq, Repr

namespace UriBuilder

def ofPath (path : Str) : UriBuilder where
  mPath := path
  mQuery := []

/-- The builder without a path. -/
def empty : UriBuilder := ofPath []

/-- `UriBuilder::appendPath` (`uribuilder.cpp:22-29`). -/
def appendPath (curl : Curl) (path : Str) (builder : UriBuilder) : Except CurlError UriBuilder :=
  if curl.handler then do
    let escaped ← appendEscape curl path
    return { builder with mPath := builder.mPath ++ str "/" ++ escaped }
  else throw .curlInitError

/-- `UriBuilder::appendQuery` (`uribuilder.cpp:31-44`). -/
def appendQuery (curl : Curl) (name value : Str) (builder : UriBuilder) :
    Except CurlError UriBuilder :=
  if curl.handler then do
    let name ← appendEscape curl name
    let value ← appendEscape curl value
    let query := name ++ str "=" ++ value
    let mQuery := if builder.mQuery = [] then builder.mQuery else builder.mQuery ++ str "&"
    return { builder with mQuery := mQuery ++ query }
  else throw .curlInitError

/-- A chain of calls of `appendQuery`. -/
def appendQueries (curl : Curl) (entries : List (Str × Str)) (builder : UriBuilder) :
    Except CurlError UriBuilder :=
  entries.foldlM (fun builder entry => builder.appendQuery curl entry.1 entry.2) builder

/-- `UriBuilder::getUri` (`uribuilder.cpp:54-61`). -/
def getUri (builder : UriBuilder) : Str :=
  if builder.mPath = [] then builder.mQuery else builder.mPath ++ str "?" ++ builder.mQuery

end UriBuilder

/-! ## Exceptions -/

/-- The exceptions of a request and of what is made of its response: those of libcurl, JSON and
numbers, and `HttpError`, `AuthFailException`, `ApiCallError` and `std::runtime_error`. -/
inductive ApiError where
  | curl (e : CurlError)
  | json (e : Json.Error)
  | number (e : NumberError)
  | httpError (code : Int)
  | authFailException (what : Str)
  | apiCallError (what : Str)
  | runtimeError (what : Str)
  deriving DecidableEq, Repr

/-- A request of libcurl in a larger computation. -/
def ofCurl {α : Type} : Except CurlError α → Except ApiError α
  | .ok a => .ok a
  | .error e => .error (.curl e)

/-- An access to a JSON value in a larger computation. -/
def ofJson {α : Type} : Except Json.Error α → Except ApiError α
  | .ok a => .ok a
  | .error e => .error (.json e)

/-- A conversion of a text in a larger computation. -/
def ofNumber {α : Type} : Except NumberError α → Except ApiError α
  | .ok a => .ok a
  | .error e => .error (.number e)

@[simp] theorem ofCurl_eq_ok {α : Type} {x : Except CurlError α} {a : α} :
    ofCurl x = .ok a ↔ x = .ok a := by
  cases x <;> simp [ofCurl]

@[simp] theorem ofJson_eq_ok {α : Type} {x : Except Json.Error α} {a : α} :
    ofJson x = .ok a ↔ x = .ok a := by
  cases x <;> simp [ofJson]

/-- What `send` and `recieve` of a plugin make of an exception, besides a log entry. -/
def ApiError.code (other : PluginApiErrorCodes) : ApiError → PluginApiErrorCodes
  | .curl (.curlHttpSendError _) => .disconected
  | _ => other

/-! ## What a server reads -/

/-- `curl_easy_escape` encodes as many characters as it is told to, or up to the end of the string
if it is told none. -/
structure Curl.Escapes (curl : Curl) : Prop where
  counted : ∀ text (length : BitVec 32) output, curl.escape text length = some output →
    0 < length.toInt → output = UrlEncoding.encode (text.take length.toNat)
  terminated : ∀ text output, curl.escape text 0 = some output →
    output = UrlEncoding.encode (cstr text)

/-- The address that a request goes to, and its parameters. -/
def target (uri : Str) : Str × List (Str × Str) :=
  (uri.takeWhile (· ≠ 63), UrlEncoding.parseQuery (uri.dropWhile (· ≠ 63)).tail)

/-- What a server reads in the form of a POST. -/
def Transfer.form (transfer : Transfer) : List (Str × Str) :=
  UrlEncoding.parseQuery (transfer.postFields.getD [])

namespace UriBuilder

variable {curl : Curl} {builder builder' : UriBuilder}

theorem mPath_of_appendQuery {name value : Str}
    (appended : builder.appendQuery curl name value = .ok builder') :
    builder'.mPath = builder.mPath := by
  unfold appendQuery at appended
  split at appended
  · obtain ⟨escapedName, first, appended⟩ := except_bind_eq_ok.mp appended
    obtain ⟨escapedValue, second, appended⟩ := except_bind_eq_ok.mp appended
    cases appended
    rfl
  · cases appended

theorem mPath_of_appendQueries {added : List (Str × Str)}
    (appended : builder.appendQueries curl added = .ok builder') :
    builder'.mPath = builder.mPath := by
  induction added generalizing builder with
  | nil =>
    cases appended
    rfl
  | cons entry rest ih =>
    unfold appendQueries at appended
    rw [List.foldlM_cons] at appended
    obtain ⟨between, first, appended⟩ := except_bind_eq_ok.mp appended
    exact (ih appended).trans (mPath_of_appendQuery first)

/-- Whatever the query is, a server reads the path. -/
theorem target_path (nonempty : builder.mPath ≠ []) (plain : (63 : UInt8) ∉ builder.mPath)
    (clean : (0 : UInt8) ∉ builder.mPath) : (target (cstr builder.getUri)).1 = builder.mPath := by
  have uri : builder.getUri = builder.mPath ++ 63 :: builder.mQuery := by
    rw [getUri, if_neg nonempty]
    simp [str]
  have others : ∀ {c : UInt8}, c ∉ builder.mPath → ∀ d ∈ builder.mPath, (decide (d ≠ c)) = true := by
    intro c absent d member
    have other : d ≠ c := by
      rintro rfl
      exact absent member
    simpa using other
  rw [uri, cstr, List.takeWhile_append_of_pos (others clean), target]
  simp only
  rw [List.takeWhile_append_of_pos (others plain)]
  simp

end UriBuilder

section

variable {curl : Curl} (escapes : curl.Escapes)

include escapes

theorem eq_of_appendEscape {param output : Str} (small : param.length < 2 ^ 31)
    (appended : appendEscape curl param = .ok output) : output = UrlEncoding.encode param := by
  unfold appendEscape at appended
  split at appended
  · rename_i escaped
    cases appended
    cases param with
    | nil => exact escapes.terminated [] output escaped
    | cons c rest =>
      have count : (BitVec.ofNat 32 (c :: rest).length).toNat = (c :: rest).length := by
        rw [BitVec.toNat_ofNat, Nat.mod_eq_of_lt (by omega)]
      have positive : 0 < (BitVec.ofNat 32 (c :: rest).length).toInt := by
        rw [BitVec.toInt_eq_toNat_of_lt (by omega), count]
        simp
      rw [escapes.counted _ _ _ escaped positive, count, List.take_length]
  · cases appended

namespace UriBuilder

variable {builder builder' : UriBuilder} {entries : List (Str × Str)}

/-- A part of the path is appended. -/
theorem mPath_of_appendPath {path : Str} (small : path.length < 2 ^ 31)
    (appended : builder.appendPath curl path = .ok builder') :
    builder'.mPath = builder.mPath ++ str "/" ++ UrlEncoding.encode path := by
  unfold appendPath at appended
  split at appended
  · obtain ⟨escaped, first, appended⟩ := except_bind_eq_ok.mp appended
    cases appended
    rw [eq_of_appendEscape escapes small first]
  · cases appended

/-- A pair is appended. -/
theorem mQuery_of_appendQuery {name value : Str} (smallName : name.length < 2 ^ 31)
    (smallValue : value.length < 2 ^ 31)
    (built : builder.mQuery = UrlEncoding.query entries)
    (appended : builder.appendQuery curl name value = .ok builder') :
    builder'.mQuery = UrlEncoding.query (entries ++ [(name, value)]) := by
  unfold appendQuery at appended
  split at appended
  · obtain ⟨escapedName, first, appended⟩ := except_bind_eq_ok.mp appended
    obtain ⟨escapedValue, second, appended⟩ := except_bind_eq_ok.mp appended
    cases appended
    rw [UrlEncoding.query_concat, ← built, eq_of_appendEscape escapes smallName first,
      eq_of_appendEscape escapes smallValue second]
    split <;> simp_all [UrlEncoding.pair, str]
  · cases appended

/-- A chain of pairs is appended. -/
theorem mQuery_of_appendQueries {added : List (Str × Str)}
    (small : ∀ entry ∈ added, entry.1.length < 2 ^ 31 ∧ entry.2.length < 2 ^ 31)
    (built : builder.mQuery = UrlEncoding.query entries)
    (appended : builder.appendQueries curl added = .ok builder') :
    builder'.mQuery = UrlEncoding.query (entries ++ added) := by
  induction added generalizing builder entries with
  | nil =>
    cases appended
    rw [built, List.append_nil]
  | cons entry rest ih =>
    unfold appendQueries at appended
    rw [List.foldlM_cons] at appended
    obtain ⟨between, first, appended⟩ := except_bind_eq_ok.mp appended
    obtain ⟨smallName, smallValue⟩ := small entry List.mem_cons_self
    have query := mQuery_of_appendQuery escapes smallName smallValue built first
    have later : ∀ entry ∈ rest, entry.1.length < 2 ^ 31 ∧ entry.2.length < 2 ^ 31 :=
      fun entry member => small entry (List.mem_cons_of_mem _ member)
    rw [ih later query appended, List.append_assoc]
    rfl

/-- A server reads the path and the pairs that the URI was built of. -/
theorem target_getUri {path : Str} {added : List (Str × Str)} (nonempty : path ≠ [])
    (plain : (63 : UInt8) ∉ path) (clean : (0 : UInt8) ∉ path)
    (small : ∀ entry ∈ added, entry.1.length < 2 ^ 31 ∧ entry.2.length < 2 ^ 31)
    (appended : (ofPath path).appendQueries curl added = .ok builder) :
    target (cstr builder.getUri) = (path, added) := by
  have samePath : builder.mPath = path := mPath_of_appendQueries appended
  have query : builder.mQuery = UrlEncoding.query added :=
    mQuery_of_appendQueries escapes small (show _ = UrlEncoding.query [] from rfl) appended
  have uri : builder.getUri = path ++ 63 :: UrlEncoding.query added := by
    rw [getUri, samePath, if_neg nonempty, query]
    simp [str]
  have whole : cstr builder.getUri = builder.getUri := by
    apply cstr_of_notMem
    rw [uri]
    simp [clean, UrlEncoding.zero_notMem_query]
  have behind : path.dropWhile (· ≠ 63) = [] := by
    rw [List.dropWhile_eq_nil_iff]
    intro c member
    have other : c ≠ 63 := by
      rintro rfl
      exact plain member
    simpa using other
  apply Prod.ext
  · exact (target_path (samePath ▸ nonempty) (samePath ▸ plain) (samePath ▸ clean)).trans samePath
  · rw [whole, uri, target]
    simp only
    rw [List.dropWhile_append, behind]
    simp

/-- A server reads the pairs that the form was built of. -/
theorem form_postTransfer {entries : List (Str × Str)}
    (small : ∀ entry ∈ entries, entry.1.length < 2 ^ 31 ∧ entry.2.length < 2 ^ 31)
    (built : empty.appendQueries curl entries = .ok builder) (uri : Str) (headers : List HttpHeader) :
    (HttpRequest.postTransfer uri builder.mQuery headers).form = entries := by
  have query : builder.mQuery = UrlEncoding.query entries :=
    mQuery_of_appendQueries escapes small (show _ = UrlEncoding.query [] from rfl) built
  rw [Transfer.form, HttpRequest.postTransfer, Option.getD_some, query,
    cstr_of_notMem (UrlEncoding.zero_notMem_query _), UrlEncoding.parseQuery_query]

end UriBuilder

end

end SecureDialogues
