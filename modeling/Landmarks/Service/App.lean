import Landmarks.Language
import Landmarks.Marker.Json
import Landmarks.Scan
import Landmarks.Service.Request
import Landmarks.Service.Target
import Landmarks.Settings.Store

/-!
# The scan service

* `FlagSource` : where the flags come from that a request starts with.
* `App` : a service: a flag source and the suffixes of C# files; `App.ofStore` : the one over a store.
* `Reply` : what is answered, with its status and its body.
* `App.scan` : the reply to a scan request; `App.respond` : the reply to any request.
-/

namespace Landmarks.Service

/-- Where the flags come from: they never change, or they are read from a store for every request. -/
inductive FlagSource
  | fixed (flags : Flags)
  | stored (store : Store Empty)

/-- The flags, and what there is to say about them. -/
def FlagSource.read (files : Files) : FlagSource → Except ContentError (Flags × List Record)
  | fixed flags => .ok (flags, [])
  | stored store => store.load files

/-- A service. -/
structure App where
  flags : FlagSource := .fixed {}
  csharp : List String := csharpSuffixes

/-- The service over a store. -/
def App.ofStore (store : Store Empty) (csharp : List String) : App := ⟨.stored store, csharp⟩

/-- What is answered. The pages that describe the service have no content of their own here. -/
inductive Reply
  | healthy
  | page
  | markers (mode : Mode) (markers : List Marker)
  | refused (detail : String)
  | invalid (issues : List Issue)
  | notFound
  | notAllowed

namespace Reply

/-- The status of a reply. -/
def status : Reply → Nat
  | healthy => 200
  | page => 200
  | markers _ _ => 200
  | refused _ => 400
  | notFound => 404
  | notAllowed => 405
  | invalid _ => 422

/-- An issue in a body. -/
def issueJson (i : Issue) : Json :=
  .obj [("type", .str i.kind.name), ("loc", .arr (i.place.map fun (part : String) => .str part))]

/-- The body of a reply. -/
def body : Reply → Json
  | healthy => .obj [("status", .str "ok")]
  | page => .null
  | markers mode ms => .obj [("language", .str mode.name), ("markers", .arr (ms.map Marker.toJson))]
  | refused detail => .obj [("detail", .str detail)]
  | notFound => .obj [("detail", .str "Not Found")]
  | notAllowed => .obj [("detail", .str "Method Not Allowed")]
  | invalid issues => .obj [("detail", .arr (issues.map issueJson))]

/-- The reply to a body that holds no request. Issues are told with the values that they are about, so
these must have a standard form and be encodable. -/
def ofBodyError : BodyError → Reply
  | .unreadable => .refused "There was an error parsing the body"
  | .invalid issues =>
    if !issues.all fun i => i.value.isFinite then
      .refused "Out of range float values are not JSON compliant"
    else if !issues.all fun i => i.value.isText then .refused "surrogates not allowed"
    else .invalid issues

end Reply

namespace App

/-- The rule set for a request: that of the named language, else that of the path. -/
def modeOf (app : App) (r : ScanRequest) : Except UnknownMode Mode :=
  match r.language.filter (!·.isEmpty), r.path.filter (!·.isEmpty) with
  | some language, _ => Mode.parse language
  | none, some path => .ok (Mode.detect app.csharp (Path.ofString path))
  | none, none => .ok .clike

/-- The reply to a scan request, and the log of it. -/
def scan (app : App) (files : Files) (r : ScanRequest) : Reply × List Record :=
  match app.modeOf r with
  | .error e => (.refused e.message, [])
  | .ok mode =>
    match app.flags.read files with
    | .error e => (.refused e.message, [])
    | .ok (flags, log) =>
      let (ms, more) := (Document.ofText r.text.toList).scan mode (flags.setAll r.overrides)
      (.markers mode ms, log ++ more)

/-- The paths of the pages that describe the service. -/
def pages : List String := ["/openapi.json", "/docs", "/docs/oauth2-redirect", "/redoc"]

/-- The reply to a request: a method, a target and the bytes of a body. A line feed at the end of the
path does not count. -/
def respond (app : App) (files : Files) (method target : String) (body : List Utf8.Byte) :
    Reply × List Record :=
  let route := (Target.ofString target).route
  let path := String.ofList (if route.getLast? == some '\n' then route.dropLast else route)
  if path == "/health" then (if method == "GET" then .healthy else .notAllowed, [])
  else if pages.contains path then
    (if method == "GET" || method == "HEAD" then .page else .notAllowed, [])
  else if path == "/scan" then
    if method == "POST" then
      match ScanRequest.ofBody body with
      | .ok r => app.scan files r
      | .error e => (Reply.ofBodyError e, [])
    else (.notAllowed, [])
  else (.notFound, [])

end App

end Landmarks.Service
