import AuthGate.Auth.Introspection
import AuthGate.Proofs.Header.Fields
import AuthGate.Proofs.Header.Text

namespace AuthGate
open Text

namespace Credentials

theorem ofBytes?_cookies (values : List HeaderValue) : ∃ cookies,
    HeaderValue.ofBytes? (HeaderValue.joinBytes cookieSeparator values) = some cookies ∧
      cookies.bytes = cookieSeparator.intercalate (values.map (·.bytes)) :=
  ⟨_, HeaderValue.ofBytes?_of_all (HeaderValue.all_joinBytes (by decide) values),
    HeaderValue.joinBytes_eq _ _⟩

private theorem foldCookies_eq (values : List HeaderValue) :
    (foldCookies values).toList.map (·.bytes) =
      if values = [] then [] else [cookieSeparator.intercalate (values.map (·.bytes))] := by
  cases values with
  | nil => rfl
  | cons first rest =>
    obtain ⟨cookies, folded, bytes⟩ := ofBytes?_cookies (first :: rest)
    simp [foldCookies, folded, bytes]

private theorem ofHeaders_congr {left right : Headers}
    (authorization : left.values .authorization = right.values .authorization)
    (cookie : left.values .cookie = right.values .cookie) : ofHeaders left = ofHeaders right := by
  rw [ofHeaders, ofHeaders, Headers.first?, Headers.first?, authorization, cookie]

end Credentials

/-- A question about a request with some fields, with all that it holds. -/
structure Request.Carries (question : Request) (mode : AuthMode) (headers : Headers)
    (requestedUri : String) (requestId : Option HeaderValue) : Prop where
  method : question.method = "POST"
  agent : (question.headers.values .userAgent).map (·.bytes) =
    [utf8 "auth-proxy-introspection".toList]
  cookie : (question.headers.values .cookie).map (·.bytes) =
    if headers.values .cookie = [] then []
    else [(utf8 "; ".toList).intercalate ((headers.values .cookie).map (·.bytes))]
  requestId : question.headers.values .requestId = requestId.toList
  requestUri : (question.headers.values .requestUri).map (·.bytes) =
    if mode = .oauth2 then [utf8 requestedUri.toList] else []
  nothingElse : ∀ name, name ∉ [.userAgent, .cookie, .requestId, .requestUri] →
    question.headers.values name = []
  body : question.body =
    match headers.values .authorization with
    | [] => []
    | first :: _ => first.bytes

namespace Introspector

variable {introspector : Introspector} {mode : AuthMode}

/-- The fields of a question, with the value of the requested URI where it is told. -/
def fieldsOf (mode : AuthMode) (credentials : Credentials) (requestedUri : HeaderValue)
    (requestId : Option HeaderValue) : Headers :=
  (commonHeaders credentials requestId).appendAll .requestUri
    (if mode = .oauth2 then [requestedUri] else [])

private theorem values_fieldsOf (mode : AuthMode) (credentials : Credentials)
    (requestedUri : HeaderValue)
    (requestId : Option HeaderValue) (name : HeaderName) :
    (fieldsOf mode credentials requestedUri requestId).values name =
      (((if .userAgent = name then [agent] else []) ++
        if .cookie = name then credentials.cookie.toList else []) ++
        if .requestId = name then requestId.toList else []) ++
        if .requestUri = name then (if mode = .oauth2 then [requestedUri] else []) else [] := by
  simp [fieldsOf, commonHeaders, appendOptional]

private theorem question_eq {endpoint : Uri} {requestedUri : String} {value : HeaderValue}
    (resolved : introspector.endpoint? mode = some endpoint)
    (read : HeaderValue.ofText? requestedUri = some value) (credentials : Credentials)
    (requestId : Option HeaderValue) :
    introspector.question mode credentials requestedUri requestId =
      .ok ⟨"POST", endpoint, fieldsOf mode credentials value requestId,
        (credentials.authorization.map (·.bytes)).getD []⟩ := by
  have fields : questionHeaders mode credentials requestedUri requestId =
      .ok (fieldsOf mode credentials value requestId) := by
    unfold questionHeaders fieldsOf
    split
    · simp only [read]
      rfl
    · simp [Headers.appendAll]
  simp only [question, resolved, fields]

private theorem carries_fieldsOf (mode : AuthMode) (endpoint : Uri) (headers : Headers)
    {requestedUri : String} {value : HeaderValue}
    (read : HeaderValue.ofText? requestedUri = some value) (requestId : Option HeaderValue) :
    (Request.mk "POST" endpoint (fieldsOf mode (.ofHeaders headers) value requestId)
      (((Credentials.ofHeaders headers).authorization.map (·.bytes)).getD [])).Carries mode headers
        requestedUri requestId := by
  have fields := values_fieldsOf mode (.ofHeaders headers) value requestId
  constructor
  case method => rfl
  case agent =>
    rw [fields]
    simp +decide [agent]
  case cookie =>
    refine Eq.trans ?_ (Credentials.foldCookies_eq (headers.values .cookie))
    rw [fields]
    simp +decide [Credentials.ofHeaders]
  case requestId =>
    rw [fields]
    simp +decide
  case requestUri =>
    rw [fields, ← HeaderValue.bytes_of_ofText? read]
    by_cases told : mode = .oauth2 <;> simp +decide [told]
  case nothingElse =>
    intro name absent
    simp only [List.mem_cons, List.not_mem_nil, or_false, not_or] at absent
    simp [fields, Ne.symm absent.1, Ne.symm absent.2.1, Ne.symm absent.2.2.1, Ne.symm absent.2.2.2]
  case body =>
    cases given : headers.values .authorization <;>
      simp [Credentials.ofHeaders, Headers.first?, given]

/-- What holds of the questions about requests with some fields: there is one, it holds all of the
credentials whatever they are, and it is the same for all requests with the same credentials. -/
structure CarriesCredentials (introspector : Introspector) (mode : AuthMode) (endpoint : Uri)
    (headers : Headers) (requestedUri : String) (requestId : Option HeaderValue) : Prop where
  posed : ∃ question,
    introspector.question mode (.ofHeaders headers) requestedUri requestId = .ok question ∧
      question.uri = endpoint ∧ question.Carries mode headers requestedUri requestId
  folded : ∃ cookies, HeaderValue.ofBytes?
    (HeaderValue.joinBytes Credentials.cookieSeparator (headers.values .cookie)) = some cookies
  alike : ∀ other : Headers, other.values .authorization = headers.values .authorization →
    other.values .cookie = headers.values .cookie →
    introspector.question mode (.ofHeaders other) requestedUri requestId =
      introspector.question mode (.ofHeaders headers) requestedUri requestId

theorem question_carries {endpoint : Uri} (resolved : introspector.endpoint? mode = some endpoint)
    (headers : Headers) {requestedUri : String} (holds : HeaderValue.Holds requestedUri)
    (requestId : Option HeaderValue) :
    CarriesCredentials introspector mode endpoint headers requestedUri requestId := by
  constructor
  case posed =>
    obtain ⟨value, read⟩ := HeaderValue.exists_ofText?_iff.mpr holds
    exact ⟨_, question_eq resolved read _ _, rfl, carries_fieldsOf mode endpoint headers read _⟩
  case folded =>
    obtain ⟨cookies, folded, _⟩ := Credentials.ofBytes?_cookies (headers.values .cookie)
    exact ⟨cookies, folded⟩
  case alike =>
    intro other authorization cookie
    rw [Credentials.ofHeaders_congr authorization cookie]

/-- A service that is told the requested URI. -/
def listener : Introspector where
  cookie := none
  oauth2 := some (.absolute "http" "b" ⟨"/o", none⟩)
  cookieAnonymous := none
  m2m := none
  timeout := .ofMillis 1

/-- Two authorizations, and three cookies of which one is empty and one is no text. -/
def burden : Headers :=
  ⟨[(.cookie, ⟨utf8 "a=1".toList, by decide⟩), (.authorization, ⟨utf8 "Bearer b".toList, by decide⟩),
    (.cookie, ⟨[], rfl⟩), (.requestUri, ⟨utf8 "/own".toList, by decide⟩),
    (.authorization, ⟨utf8 "Basic c".toList, by decide⟩), (.cookie, ⟨[233, 9], rfl⟩)]⟩

theorem question_carries_burden :
    listener.endpoint? .oauth2 = some (.absolute "http" "b" ⟨"/o", none⟩) ∧
    HeaderValue.Holds "http://h/ü?a=b c" ∧
    CarriesCredentials listener .oauth2 (.absolute "http" "b" ⟨"/o", none⟩) burden
      "http://h/ü?a=b c" (some ⟨[69], rfl⟩) := by
  have holds : HeaderValue.Holds "http://h/ü?a=b c" := by decide
  exact ⟨rfl, holds, question_carries rfl burden holds _⟩

end Introspector
end AuthGate
