import QuotaRing.Node.Fleet
import QuotaRing.Proofs.Http.Paths
import QuotaRing.Proofs.Store.Forms
import QuotaRing.Proofs.Text.Digits

/-!
# Commands that arrive

A command reaches a peer as a request, which the peer reads back as the same
command, and the answer reads back as its outcome.  Main statement: a peer that
admits the caller answers the request that carries a command as if it had been
given the command itself.
-/

namespace QuotaRing.Peer

open QuotaRing.Http (IsAscii IsFieldText staysInside)
open QuotaRing.Http.Percent (ascii)
open QuotaRing.Net (Endpoint Ip)
open QuotaRing.Store (Key Patch Table)

/-! ## Lifetimes -/

/-- A number of seconds is read if it is positive and fits in a clock reading. -/
theorem lifetimeOfText?_render {seconds : Nat} (positive : 0 < seconds) :
    lifetimeOfText? (Text.Decimal.render seconds) =
      if (seconds : Int) ≤ Saturating.highest then
        some (Span.ofSeconds (UInt64.ofNat seconds))
      else none := by
  have noBlank : ∀ character ∈ Text.Decimal.digits seconds,
      Text.isBlank character = false := fun character member =>
    (Text.Decimal.plain_of_mem_decimalDigits
      (Text.Decimal.digits_subset _ character member)).1
  rw [lifetimeOfText?, Text.Decimal.render, String.toList_ofList,
    Text.trim_of_no_blank noBlank, Text.Decimal.signed?_digits_eq]
  split
  · next bound =>
      simp only [Saturating.highest] at bound
      have above : (0 : Int64) < Int64.ofNat seconds := by
        rw [Int64.lt_iff_toInt_lt, ← Int64.ofInt_eq_ofNat,
          Int64.toInt_ofInt_of_le (by omega) (by omega)]
        exact Int.ofNat_lt.2 positive
      simp only [Int64.ofInt_eq_ofNat, Option.bind_eq_bind, Option.bind_some,
        if_pos above, Int64.toUInt64_ofNat']
  · rfl

/-- A positive whole number of seconds that fits in a clock reading. -/
structure IsWhole (lifetime : Span) : Prop where
  whole : lifetime.nanos = 0
  positive : 0 < lifetime.seconds
  fits : (lifetime.seconds.toNat : Int) ≤ Saturating.highest

namespace IsWhole

variable {lifetime : Span}

theorem headerSeconds (whole : IsWhole lifetime) :
    lifetime.headerSeconds = lifetime.seconds := by
  rw [Span.headerSeconds,
    whole.whole, if_neg (Nat.lt_irrefl 0), UInt64.add_zero]
  have positive : UInt64.toNat 1 ≤ lifetime.seconds.toNat :=
    UInt64.lt_iff_toNat_lt.1 whole.positive
  exact if_pos (UInt64.le_iff_toNat_le.2 positive)

theorem eq_ofSeconds (whole : IsWhole lifetime) :
    Span.ofSeconds lifetime.seconds = lifetime := by
  rcases lifetime with ⟨seconds, nanos, below⟩
  have none := whole.whole
  dsimp only at none
  subst none
  rfl

/-- The seconds that are written are read as the same lifetime. -/
theorem lifetimeOfText? (whole : IsWhole lifetime) :
    Peer.lifetimeOfText? (Text.Decimal.render lifetime.headerSeconds.toNat) =
      some lifetime := by
  have positive := UInt64.lt_iff_toNat_lt.1 whole.positive
  rw [whole.headerSeconds, lifetimeOfText?_render positive, if_pos whole.fits,
    UInt64.ofNat_toNat, whole.eq_ofSeconds]

/-- The digits of a lifetime may stand in a field. -/
theorem isFieldText (lifetime : Span) :
    IsFieldText (Text.Decimal.render lifetime.headerSeconds.toNat) := by
  intro character member
  rw [Text.Decimal.render, String.toList_ofList] at member
  have plain := Text.Decimal.plain_of_mem_decimalDigits
    (Text.Decimal.digits_subset _ character member)
  exact .inl plain.2.2.2

end IsWhole

/-! ## The fields of a request -/

/-- The fields of the request that carries a command. -/
def Command.fields (command : Command) (name trace : String) : Http.Headers :=
  [(hostKeyField, Text.Utf8.encode name), (traceField, Text.Utf8.encode trace)] ++
    match command.payload? with
    | some (lifetime, _) =>
        [(lifetimeField,
          Text.Utf8.encode (Text.Decimal.render lifetime.headerSeconds.toNat))]
    | none => []

variable
    {command : Command}
    {name trace : String}

theorem hostKey_fields
    (fits : IsFieldText name)
    (nonblank : Text.isBlankText name = false) :
    hostKey (command.fields name trace) = .ok name := by
  have first : (command.fields name trace).first? hostKeyField =
      some (Text.Utf8.encode name) := by
    rw [Command.fields, List.cons_append, Http.Headers.first?_cons_self]
  rw [hostKey, Http.Headers.text?,
    first, Option.bind_some, fits.visibleText?_encode, Option.filter_some,
    nonblank]
  rfl

theorem lifetime_fields
    {span : Span}
    {body : List UInt8}
    (carries : command.payload? = some (span, body))
    (whole : IsWhole span) :
    lifetime (command.fields name trace) = .ok span := by
  have notHost : (hostKeyField.toLower == lifetimeField.toLower) = false := by
    decide +kernel
  have notTrace : (traceField.toLower == lifetimeField.toLower) = false := by
    decide +kernel
  have first : (command.fields name trace).first? lifetimeField =
      some (Text.Utf8.encode
        (Text.Decimal.render span.headerSeconds.toNat)) := by
    rw [Command.fields, carries, List.cons_append,
      Http.Headers.first?_cons_of_ne _ _ notHost, List.cons_append,
      Http.Headers.first?_cons_of_ne _ _ notTrace, List.nil_append,
      Http.Headers.first?_cons_self]
  rw [lifetime, first]
  dsimp only
  rw [(IsWhole.isFieldText span).visibleText?_encode, Option.bind_some,
    whole.lifetimeOfText?]

/-! ## The command of a request -/

/--
A command that a request can carry to a node that takes objects of some size:
its path names the key, its lifetime is a positive whole number of seconds, and
its body is not too large.
-/
structure Command.Travels (command : Command) (maxObject : Nat) : Prop where
  named : command.key.text ≠ "." ∧ command.key.text ≠ ".."
  whole : ∀ lifetime body, command.payload? = some (lifetime, body) →
    IsWhole lifetime ∧ body.length ≤ maxObject

/-- A patch in a body that can be addressed is short. -/
theorem isShort_of_length
    {change : Patch}
    (addressable : (Wire.encode change).length <
      Wire.capacity Wire.Width.eight.bytes) :
    change.IsShort := by
  cases change with
  | increment delta => exact trivial
  | trackHit hit =>
      have part : (Text.Utf8.encode hit.quota.id).length ≤
          (Wire.encode (Patch.trackHit hit)).length := by
        have quota : Wire.encode hit.quota =
            Wire.encode hit.quota.id ++ Wire.encode hit.quota.unit ++
              Wire.encode hit.quota.value := rfl
        have id : Wire.encode hit.quota.id =
            Wire.encodeNat hit.quota.id.utf8ByteSize ++
              Text.Utf8.encode hit.quota.id := rfl
        have hits : Wire.encode hit =
            Wire.encode hit.quota ++ Wire.encode hit.method ++
              Wire.encode hit.stamp := rfl
        rw [Store.encode_trackHit, hits, quota, id]
        simp only [List.length_append]
        omega
      rw [Wire.length_utf8] at part
      exact Nat.lt_of_le_of_lt part addressable

variable
    {maxObject : Nat}
    (fits : IsFieldText name)
    (nonblank : Text.isBlankText name = false)
    (travels : command.Travels maxObject)

include fits nonblank travels

theorem checkEnvelope_fields :
    checkEnvelope command.method command.key.text (command.fields name trace) =
      .ok command.key := by
  have keyed : keyOf command.key.text = .ok command.key := by
    rw [keyOf, Key.ofText?_text]
  rw [checkEnvelope, hostKey_fields fits nonblank, keyed]
  cases carries : command.payload? with
  | none =>
      have reads : isWrite command.method = false := by
        cases command with
        | get key => rfl
        | put key value lifetime => cases carries
        | patch key change lifetime => cases carries
        | delete key => rfl
      simp only [bind, Except.bind, reads]
      rfl
  | some payload =>
      have whole := (travels.whole payload.1 payload.2 carries).1
      simp only [bind, Except.bind, lifetime_fields carries whole]
      split
      · rfl
      · rfl

/-- The fields and the body of a command give the command. -/
theorem ofRequest_fields
    (addressable : maxObject < Wire.capacity Wire.Width.eight.bytes) :
    Command.ofRequest command.method command.key.text
        (command.fields name trace)
        ((command.payload?.map Prod.snd).getD []) maxObject =
      .ok command := by
  have envelope : checkEnvelope command.method command.key.text
      (command.fields name trace) = .ok command.key :=
    checkEnvelope_fields fits nonblank travels
  rw [Command.ofRequest, envelope]
  cases command with
  | get key => rfl
  | put key value span =>
      have payload := travels.whole span value rfl
      have limited : lifetime ((Command.put key value span).fields name trace) =
          .ok span := lifetime_fields rfl payload.1
      show (lifetime ((Command.put key value span).fields name trace) >>=
        fun lifetime => Command.ofWrite "PUT" key lifetime value maxObject) = _
      rw [limited]
      show Command.ofWrite "PUT" key span value maxObject = _
      rw [Command.ofWrite, if_neg (Nat.not_lt.2 payload.2)]
      rfl
  | patch key change span =>
      have payload := travels.whole span (Wire.encode change) rfl
      have limited :
          lifetime ((Command.patch key change span).fields name trace) =
            .ok span := lifetime_fields rfl payload.1
      have short := isShort_of_length
        (Nat.lt_of_le_of_lt payload.2 addressable)
      show (lifetime ((Command.patch key change span).fields name trace) >>=
        fun lifetime => Command.ofWrite "PATCH" key lifetime
          (Wire.encode change) maxObject) = _
      rw [limited]
      show Command.ofWrite "PATCH" key span (Wire.encode change) maxObject = _
      rw [Command.ofWrite, if_neg (Nat.not_lt.2 payload.2),
        (Store.reads_patch short).decode]
      rfl
  | delete key => rfl

omit fits nonblank travels

/-! ## The path of a request -/

theorem pathOf_eq
    {key : Key}
    (named : key.text ≠ "." ∧ key.text ≠ "..") :
    pathOf key = objectPath.toList ++ '/' :: Http.Percent.encode key.bytes := by
  have plain : ¬ (key.text == "." || key.text == "..") = true := by
    simp [named.1, named.2]
  rw [pathOf, if_neg plain]

/-- The segment that a key is written as stands for the bytes of the key. -/
def segmentOf (key : Key) : List UInt8 :=
  ascii (Http.Percent.encode key.bytes)

theorem segmentOf_ne_nil (key : Key) : segmentOf key ≠ [] := by
  have nonempty : key.bytes ≠ [] := by
    intro empty
    have size := Wire.length_utf8 key.text
    rw [show Text.Utf8.encode key.text = key.bytes from rfl, empty] at size
    have blank := String.utf8ByteSize_eq_zero_iff.1 size.symm
    have filled := key.valid.1
    rw [blank] at filled
    cases filled
  intro empty
  exact Http.encode_ne_nil nonempty (List.map_eq_nil_iff.1 empty)

theorem decode_segmentOf (key : Key) :
    Text.Utf8.decode? (Http.Percent.decode (segmentOf key)) = some key.text := by
  rw [segmentOf, Http.Percent.decode_encode]
  exact Text.Utf8.decode?_encode key.text

/-- The path of the request for an object, in segments. -/
theorem segments_of_uri
    {request : Http.Request}
    {key : Key}
    (named : key.text ≠ "." ∧ key.text ≠ "..")
    (uri : request.uri = String.ofList (pathOf key)) :
    request.segments = Service.Resource.segments objectPath ++ [segmentOf key] := by
  rw [pathOf_eq named] at uri
  have prefixed : objectPath.toList.all (fun character =>
      decide (IsAscii character) &&
        (UInt8.ofNat character.toNat != 0x23 &&
          UInt8.ofNat character.toNat != 0x3f)) = true := by
    decide +kernel
  have path : request.path =
      ascii (objectPath.toList ++ '/' :: Http.Percent.encode key.bytes) := by
    apply Http.path_of_ascii uri
    intro character member
    rcases List.mem_append.1 member with first | later
    · have fits := List.all_eq_true.1 prefixed character first
      simpa using fits
    · rcases List.mem_cons.1 later with rfl | written
      · decide
      · have fits := Http.encode_fits key.bytes character written
        simp only [staysInside, Bool.and_eq_true, bne_iff_ne] at fits
        exact ⟨fits.1, fits.2.1.2, fits.2.2⟩
  have free : ∀ byte ∈ segmentOf key, byte ≠ 0x2f := by
    intro byte member
    rcases List.mem_map.1 member with ⟨character, written, rfl⟩
    have fits := Http.encode_fits key.bytes character written
    simp only [staysInside, Bool.and_eq_true, bne_iff_ne] at fits
    exact fits.2.1.1
  have first : Http.splitAtSlashes (ascii objectPath.toList) =
      Service.Resource.segments objectPath := by
    decide +kernel
  rw [Http.Request.segments, path, Http.ascii_append, ← first]
  exact Http.splitAtSlashes_append _ free

/-- A path of objects that ends in a segment names the object of the segment. -/
theorem resource_of_objectPath
    {segment : List UInt8}
    (filled : segment ≠ []) :
    Service.Resource.ofSegments?
        (Service.Resource.segments objectPath ++ [segment]) =
      some (.object segment) := by
  have objects : (Service.Resource.segments objectPath).length = 4 ∧
      Service.Resource.segments objectPath ≠ Service.Resource.segments "/rl" ∧
      Service.Resource.segments objectPath ≠
        Service.Resource.segments "/rl-check" := by
    decide +kernel
  have others : (Service.Resource.segments "/").length = 2 ∧
      (Service.Resource.segments "/health").length = 2 ∧
      (Service.Resource.segments "/about").length = 2 := by
    decide +kernel
  generalize same : Service.Resource.segments objectPath = first at objects ⊢
  have long : (first ++ [segment]).length = 5 := by
    rw [List.length_append, objects.1]
    rfl
  have notRoot : ∀ path : List (List UInt8), path.length = 2 →
      first ++ [segment] ≠ path := by
    intro path short same
    rw [same, short] at long
    cases long
  have nonempty : ¬ segment.isEmpty = true := by
    rw [List.isEmpty_iff]
    exact filled
  rw [Service.Resource.ofSegments?]
  simp only [if_neg (notRoot _ others.1), if_neg (notRoot _ others.2.1),
    if_neg (notRoot _ others.2.2), List.getLastD_concat, if_neg nonempty,
    List.dropLast_concat, if_neg objects.2.1, if_neg objects.2.2,
    if_pos same.symm]

theorem resource_of_uri
    {request : Http.Request}
    {key : Key}
    (named : key.text ≠ "." ∧ key.text ≠ "..")
    (uri : request.uri = String.ofList (pathOf key)) :
    Service.Resource.ofSegments? request.segments =
      some (.object (segmentOf key)) := by
  rw [segments_of_uri named uri]
  exact resource_of_objectPath (segmentOf_ne_nil key)

/-! ## Carrying out and answering -/

/-- The request that carries a command to a peer. -/
def Command.outgoing
    (command : Command)
    (peer : Endpoint)
    (name trace : String) :
    Outgoing where
  peer := peer
  method := command.method
  path := pathOf command.key
  headers := command.fields name trace
  body? := command.payload?.map Prod.snd

/-- A request for a peer with a uri is sent unless a field may not be. -/
theorem request_of_reachable
    {peer : Endpoint}
    (reachable : (originOf? peer).isSome = true)
    (command : Command)
    (name trace : String) :
    command.request peer name trace =
      if (Text.Utf8.encode name).all Http.isAllowed &&
          (Text.Utf8.encode trace).all Http.isAllowed then
        .ok (command.outgoing peer name trace)
      else .error .forbiddenValue := by
  have known : ¬ (originOf? peer).isNone = true := by
    rw [Option.isNone_eq_false_iff.2 reachable]
    exact Bool.false_ne_true
  rw [Command.request, if_neg known]
  rfl

/-- The request is sent unless its peer has no uri. -/
theorem request_eq
    {peer : Endpoint}
    (reachable : (originOf? peer).isSome = true)
    (command : Command)
    (fits : IsFieldText name)
    (traced : IsFieldText trace) :
    command.request peer name trace =
      .ok (command.outgoing peer name trace) := by
  rw [request_of_reachable reachable, fits.allowed, traced.allowed]
  rfl

/-- What a peer that admits the caller makes of the request for a command. -/
theorem answerObject_eq
    {access : Cluster.Access}
    {caller : Ip}
    {request : Http.Request}
    (fits : IsFieldText name)
    (nonblank : Text.isBlankText name = false)
    (travels : command.Travels maxObject)
    (addressable : maxObject < Wire.capacity Wire.Width.eight.bytes)
    (admits : access.admits caller = true)
    (method : request.method = command.method)
    (headers : request.headers = command.fields name trace)
    (body : request.body = (command.payload?.map Prod.snd).getD [])
    (now : Int64)
    (table : Table) :
    Service.answerObject access maxObject now caller (segmentOf command.key)
        request table =
      ((command.run now table).1.response, (command.run now table).2) := by
  have short : ¬ maxObject < request.body.length := by
    rw [body]
    cases carries : command.payload? with
    | none => exact Nat.not_lt_zero maxObject
    | some payload =>
        exact Nat.not_lt.2 (travels.whole payload.1 payload.2 carries).2
  have command_ : Service.commandOf request command.key.text maxObject =
      .ok command := by
    rw [Service.commandOf, if_neg short, method, headers, body]
    exact ofRequest_fields fits nonblank travels addressable
  rw [Service.answerObject, if_pos admits, decode_segmentOf]
  dsimp only
  rw [Service.carryOut, command_]

theorem outcomeOf_response
    (command : Command)
    (peer : Endpoint)
    (now : Int64)
    (table : Table) :
    command.outcomeOf peer (command.run now table).1.response.status
        (command.run now table).1.response.content.toBytes =
      .ok (command.run now table).1 := by
  cases command with
  | get key =>
      simp only [Command.run]
      cases table.get? now key with
      | none => rfl
      | some value => rfl
  | put key value lifetime => rfl
  | patch key change lifetime => rfl
  | delete key => rfl

end QuotaRing.Peer

namespace QuotaRing.Station

open QuotaRing.Http (IsFieldText)
open QuotaRing.Net (Ip)
open QuotaRing.Peer (Command)
open QuotaRing.Store (Table)

/-- The station whose node has another table. -/
def withTable (station : Station) (table : Table) : Station :=
  { station with
    node := { station.node with
      site := { station.node.site with table := table } } }

/-- A station answers a request on an object by its own table. -/
theorem serve_of_object
    (station : Station)
    {request : Http.Request}
    {segment : List UInt8}
    (routes : Service.Resource.ofSegments? request.segments =
      some (.object segment))
    (trace : String)
    (caller : Ip) :
    station.serve trace caller request =
      let (response, table) := Service.answerObject station.node.access
        station.node.maxObject station.now caller segment request
        station.node.site.table
      (if request.method == "HEAD" then response.headOnly else response,
        station.withTable table) := by
  simp only [serve, Service.answer, Service.answerFull, routes,
    Service.Resource.allowed?, Option.filter_none, Service.answerResource, bind,
    StateT.bind]
  rfl

/--
A station that admits the caller answers the request for a command as if it had
been given the command itself.
-/
theorem serve_eq
    (station : Station)
    {command : Command}
    {name trace : String}
    {caller : Ip}
    {request : Http.Request}
    (fits : IsFieldText name)
    (nonblank : Text.isBlankText name = false)
    (travels : command.Travels station.node.maxObject)
    (addressable : station.node.maxObject <
      Wire.capacity Wire.Width.eight.bytes)
    (admits : station.node.access.admits caller = true)
    (method : request.method = command.method)
    (uri : request.uri = String.ofList (Peer.pathOf command.key))
    (headers : request.headers = command.fields name trace)
    (body : request.body = (command.payload?.map Prod.snd).getD [])
    (local_ : String) :
    station.serve local_ caller request =
      ((command.run station.now station.node.site.table).1.response,
        station.withTable
          (command.run station.now station.node.site.table).2) := by
  have resource := Peer.resource_of_uri travels.named uri
  have answered := Peer.answerObject_eq fits nonblank travels addressable admits
    method headers body station.now station.node.site.table
  have notHead : (request.method == "HEAD") = false := by
    rw [method]
    cases command <;> rfl
  rw [station.serve_of_object resource, answered]
  dsimp only
  rw [notHead]
  rfl

end QuotaRing.Station
