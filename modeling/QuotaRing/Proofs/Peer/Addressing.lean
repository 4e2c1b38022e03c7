import QuotaRing.Proofs.Peer.Delivery

/-!
# The uris of objects

A key is addressed on a peer by a uri whose path ends in the key, as one
segment.  The authority in front holds no slash, so the path can be told from
the uri, and the key from the path.  Main statement: every key has a uri on
every peer in no zone, whose path ends in a segment that stands for the key,
unless the key is one or two dots.  Those two would name no segment, so they are
left out and share the path of all objects; no other two keys share a uri.
-/

namespace QuotaRing.Net

open QuotaRing.Text.Decimal (decimalDigits)
open QuotaRing.Text.Hexadecimal (lowerDigits)

/-! ## The characters of an authority -/

/-- The zone of an endpoint; there is none if it is zero. -/
def Endpoint.zone : Endpoint → UInt32
  | .v4 _ _ => 0
  | .v6 _ _ zone => zone

/-- The characters that an authority is written with. -/
def authorityCharacters : List Char :=
  lowerDigits ++ ['.', ':', '[', ']']

/-- Whether a text can stand in an authority. -/
def IsAuthority (text : String) : Prop :=
  ∀ character ∈ text.toList, character ∈ authorityCharacters

namespace IsAuthority

theorem of_all
    {text : String}
    (all : text.toList.all (authorityCharacters.contains ·) = true) :
    IsAuthority text :=
  fun character member =>
    List.contains_iff_mem.1 (List.all_eq_true.1 all character member)

theorem append
    {left right : String}
    (first : IsAuthority left)
    (second : IsAuthority right) :
    IsAuthority (left ++ right) := by
  intro character member
  rw [String.toList_append, List.mem_append] at member
  rcases member with earlier | later
  · exact first character earlier
  · exact second character later

theorem intercalate
    {separator : String}
    {parts : List String}
    (between : IsAuthority separator)
    (all : ∀ part ∈ parts, IsAuthority part) :
    IsAuthority (separator.intercalate parts) := by
  induction parts with
  | nil =>
      intro character member
      simp at member
  | cons first rest ih =>
      have others := ih fun part member =>
        all part (List.mem_cons_of_mem first member)
      by_cases last : rest = []
      · rw [last, String.intercalate_singleton]
        exact all first List.mem_cons_self
      · rw [String.intercalate_cons_of_ne_nil last]
        exact ((all first List.mem_cons_self).append between).append others

theorem ofList
    {characters : List Char}
    (subset : ∀ character ∈ characters, character ∈ lowerDigits) :
    IsAuthority (String.ofList characters) := by
  intro character member
  rw [String.toList_ofList] at member
  exact List.mem_append_left _ (subset character member)

theorem decimal (number : Nat) : IsAuthority (Text.Decimal.render number) := by
  have included : decimalDigits.all (lowerDigits.contains ·) = true := by decide
  apply ofList
  intro character member
  have digit := Text.Decimal.digits_subset number character member
  exact List.contains_iff_mem.1 (List.all_eq_true.1 included character digit)

theorem hexadecimal (number : Nat) :
    IsAuthority (String.ofList (Text.Hexadecimal.digits number)) := by
  apply ofList
  fun_induction Text.Hexadecimal.digits number with
  | case1 number small =>
      intro character member
      rw [List.mem_singleton.1 member]
      exact Text.Hexadecimal.lowerDigit_mem number
  | case2 number large ih =>
      intro character member
      rcases List.mem_append.1 member with earlier | last
      · exact ih character earlier
      · rw [List.mem_singleton.1 last]
        exact Text.Hexadecimal.lowerDigit_mem number

theorem octets (bits : BitVec 32) : IsAuthority (Ip.renderOctets bits) := by
  apply intercalate (of_all (by decide +kernel))
  intro part member
  rcases List.mem_map.1 member with ⟨number, _, rfl⟩
  exact decimal number

theorem groups (numbers : List Nat) : IsAuthority (Ip.renderGroups numbers) := by
  apply intercalate (of_all (by decide +kernel))
  intro part member
  rcases List.mem_map.1 member with ⟨number, _, rfl⟩
  exact hexadecimal number

theorem compressed (bits : BitVec 128) :
    IsAuthority (Ip.renderCompressed bits) := by
  rw [Ip.renderCompressed]
  dsimp only
  split
  · exact ((groups _).append (of_all (by decide +kernel))).append (groups _)
  · exact groups _

theorem host (ip : Ip) : IsAuthority ip.renderHost := by
  cases ip with
  | v4 bits => exact octets bits
  | v6 bits =>
      exact ((of_all (by decide +kernel)).append (compressed bits)).append
        (of_all (by decide +kernel))

/-- An authority neither begins a path nor ends it. -/
theorem no_slash
    {text : String}
    (authority : IsAuthority text) :
    '/' ∉ text.toList := by
  intro member
  exact absurd (authority '/' member) (by decide)

end IsAuthority

end QuotaRing.Net

namespace QuotaRing.Http

/--
The path of a uri: what stands behind the scheme and the authority, without a
query and without what a number sign leads in.
-/
def pathOfUri (uri : String) : List Char :=
  ((uri.toList.drop "http://".length).dropWhile (· != '/')).takeWhile
    fun character => character != '?' && character != '#'

end QuotaRing.Http

namespace QuotaRing.Peer

open QuotaRing.Http (pathOfUri)
open QuotaRing.Net (Endpoint IsAuthority)
open QuotaRing.Store (Key)

/-- Whether a key is one of the two that would name no segment of a path. -/
def IsDots (key : Key) : Prop :=
  key.text = "." ∨ key.text = ".."

instance (key : Key) : Decidable (IsDots key) :=
  inferInstanceAs (Decidable (_ ∨ _))

/--
Whether a text stands for a key as one segment of a path: it is not empty,
nothing in it divides or ends the path, and reading it gives the key.
-/
structure StandsFor (segment : List Char) (key : Key) : Prop where
  nonempty : segment ≠ []
  inside : ∀ character ∈ segment,
    character ≠ '/' ∧ character ≠ '?' ∧ character ≠ '#'
  reads :
    Text.Utf8.decode? (Http.Percent.decode
      (Text.Utf8.encode (String.ofList segment))) = some key.text

/-! ## The path of a key -/

theorem pathOf_of_dots
    {key : Key}
    (dots : IsDots key) :
    pathOf key = objectPath.toList := by
  have either : (key.text == "." || key.text == "..") = true := by
    rcases dots with one | two
    · simp [one]
    · simp [two]
  rw [pathOf, if_pos either, List.append_nil]

theorem pathOf_of_not_dots
    {key : Key}
    (named : ¬ IsDots key) :
    pathOf key = objectPath.toList ++ '/' :: Http.Percent.encode key.bytes :=
  pathOf_eq (not_or.1 named)

/-- What a key is written as stands for the key. -/
theorem standsFor_encode (key : Key) :
    StandsFor (Http.Percent.encode key.bytes) key where
  nonempty empty := segmentOf_ne_nil key (by rw [segmentOf, empty]; rfl)
  inside character member := by
    have fits := (Http.encode_fits key.bytes character member).2
    refine ⟨?_, ?_, ?_⟩
    all_goals
      rintro rfl
      revert fits
      decide
  reads := by
    rw [Http.encode_ofList_of_ascii fun character member =>
      (Http.encode_fits key.bytes character member).1]
    exact decode_segmentOf key

theorem length_pathOf_of_not_dots
    {key : Key}
    (named : ¬ IsDots key) :
    objectPath.toList.length < (pathOf key).length := by
  rw [pathOf_of_not_dots named, List.length_append, List.length_cons]
  omega

/-- Keys are told apart by their paths, but for the two of dots. -/
theorem pathOf_eq_iff {left right : Key} :
    pathOf left = pathOf right ↔ left = right ∨ (IsDots left ∧ IsDots right) := by
  constructor
  · intro same
    by_cases leftDots : IsDots left
    · by_cases rightDots : IsDots right
      · exact .inr ⟨leftDots, rightDots⟩
      · have longer := length_pathOf_of_not_dots rightDots
        rw [← same, pathOf_of_dots leftDots] at longer
        exact absurd longer (Nat.lt_irrefl _)
    · by_cases rightDots : IsDots right
      · have longer := length_pathOf_of_not_dots leftDots
        rw [same, pathOf_of_dots rightDots] at longer
        exact absurd longer (Nat.lt_irrefl _)
      · rw [pathOf_of_not_dots leftDots, pathOf_of_not_dots rightDots,
          List.append_cancel_left_eq, List.cons.injEq] at same
        have read := congrArg
          (fun segment => Text.Utf8.decode? (Http.Percent.decode
            (Text.Utf8.encode (String.ofList segment)))) same.2
        simp only [(standsFor_encode _).reads, Option.some.injEq] at read
        exact .inl (Key.ext read)
  · rintro (rfl | ⟨leftDots, rightDots⟩)
    · rfl
    · rw [pathOf_of_dots leftDots, pathOf_of_dots rightDots]

/-! ## The uri of a key -/

theorem exists_authority
    {peer : Endpoint}
    {origin : String}
    (known : originOf? peer = some origin) :
    ∃ authority, IsAuthority authority ∧ origin = "http://" ++ authority := by
  have written : ∀ (ip : Net.Ip) (port : UInt16),
      ∃ authority, IsAuthority authority ∧
        originOf?.origin ip port = "http://" ++ authority := by
    intro ip port
    refine ⟨ip.renderHost ++
      if port = 80 then "" else ":" ++ Text.Decimal.render port.toNat, ?_, ?_⟩
    · apply (IsAuthority.host ip).append
      split
      · exact IsAuthority.of_all (by decide +kernel)
      · exact IsAuthority.append (IsAuthority.of_all (by decide +kernel))
          (IsAuthority.decimal _)
    · rw [originOf?.origin, String.append_assoc]
  cases peer with
  | v4 bits port =>
      cases known
      exact written _ _
  | v6 bits port zone =>
      rw [originOf?, Option.ite_none_right_eq_some] at known
      cases known.2
      exact written _ _

/-- The path of a key begins with a slash, and nothing in it ends it. -/
theorem pathOf_stays (key : Key) :
    (∃ rest, pathOf key = '/' :: rest) ∧
      ∀ character ∈ pathOf key, character ≠ '?' ∧ character ≠ '#' := by
  have prefixed : objectPath.toList.all
      (fun character => character != '?' && character != '#') = true := by
    decide +kernel
  have fits : ∀ character ∈ objectPath.toList,
      character ≠ '?' ∧ character ≠ '#' := by
    intro character member
    simpa using List.all_eq_true.1 prefixed character member
  have begins : objectPath.toList = '/' :: objectPath.toList.tail := by
    decide +kernel
  by_cases dots : IsDots key
  · rw [pathOf_of_dots dots]
    exact ⟨⟨_, begins⟩, fits⟩
  · rw [pathOf_of_not_dots dots]
    refine ⟨⟨_, by rw [begins, List.cons_append]⟩, ?_⟩
    intro character member
    rcases List.mem_append.1 member with earlier | later
    · exact fits character earlier
    · rcases List.mem_cons.1 later with rfl | written
      · decide
      · exact ((standsFor_encode key).inside character written).2

/-- The path of the uri of an object is the path of its key. -/
theorem pathOfUri_objectUri
    {peer : Endpoint}
    {key : Key}
    {uri : String}
    (addressed : objectUri peer key = .ok uri) :
    pathOfUri uri = pathOf key := by
  rw [objectUri] at addressed
  cases known : originOf? peer with
  | none =>
      rw [known] at addressed
      cases addressed
  | some origin =>
      rw [known] at addressed
      cases addressed
      rcases exists_authority known with ⟨authority, fits, rfl⟩
      rcases pathOf_stays key with ⟨⟨rest, begins⟩, stays⟩
      have written : (String.ofList (pathOf key)).toList = pathOf key :=
        String.toList_ofList
      have behind : ("http://" ++ authority ++ String.ofList (pathOf key)).toList.drop
          "http://".length = authority.toList ++ pathOf key := by
        rw [String.append_assoc, String.toList_append, String.toList_append,
          written, ← String.length_toList]
        exact List.drop_left
      have skipped : (authority.toList ++ pathOf key).dropWhile (· != '/') =
          pathOf key := by
        rw [List.dropWhile_append_of_pos, begins, List.dropWhile_cons_of_neg]
        · simp
        · intro character member
          apply bne_iff_ne.2
          rintro rfl
          exact fits.no_slash member
      rw [pathOfUri, behind, skipped]
      apply List.takeWhile_eq_self_iff.2
      intro character member
      have free := stays character member
      simp [free.1, free.2]

/-- A peer in no zone has uris. -/
theorem exists_origin
    {peer : Endpoint}
    (unscoped : peer.zone = 0) :
    ∃ origin, originOf? peer = some origin := by
  cases peer with
  | v4 bits port => exact ⟨_, rfl⟩
  | v6 bits port zone => exact ⟨_, if_pos unscoped⟩

/--
Every key has a uri on every peer in no zone.  Its path is that of all objects
with one segment behind it that stands for the key exactly if the key is not one
or two dots, and that of all objects alone if it is.  Those two keys share the
uri, and no other two share one, on whatever peers.
-/
theorem addresses_key_iff
    (peer : Endpoint)
    (unscoped : peer.zone = 0)
    (key : Key) :
    ∃ uri, objectUri peer key = .ok uri ∧
      ((∃ segment, pathOfUri uri = objectPath.toList ++ '/' :: segment ∧
          StandsFor segment key) ↔
        ¬ IsDots key) ∧
      (IsDots key → pathOfUri uri = objectPath.toList) ∧
      (∀ other, objectUri peer other = .ok uri ↔
        other = key ∨ (IsDots other ∧ IsDots key)) ∧
      ∀ elsewhere other, objectUri elsewhere other = .ok uri →
        other = key ∨ (IsDots other ∧ IsDots key) := by
  rcases exists_origin unscoped with ⟨origin, known⟩
  have addressed : ∀ other, objectUri peer other =
      .ok (origin ++ String.ofList (pathOf other)) := by
    intro other
    rw [objectUri, known]
  have path := pathOfUri_objectUri (addressed key)
  have apart : ∀ elsewhere other,
      objectUri elsewhere other =
          .ok (origin ++ String.ofList (pathOf key)) →
        other = key ∨ (IsDots other ∧ IsDots key) := by
    intro elsewhere other same
    exact pathOf_eq_iff.1 ((pathOfUri_objectUri same).symm.trans path)
  refine ⟨_, addressed key, ⟨?segment, ?named⟩, ?dots, fun other => ⟨?_, ?shared⟩,
    apart⟩
  case segment =>
    rintro ⟨segment, ends, _⟩ dots
    have length := congrArg List.length (ends.symm.trans path)
    rw [pathOf_of_dots dots, List.length_append, List.length_cons] at length
    omega
  case named =>
    intro named
    exact ⟨_, path.trans (pathOf_of_not_dots named), standsFor_encode key⟩
  case dots =>
    intro dots
    exact path.trans (pathOf_of_dots dots)
  case shared =>
    intro alike
    rw [addressed, pathOf_eq_iff.2 alike]
  exact apart peer other

/-- One dot and two are keys, and both have the uri of all objects. -/
theorem dots_share_uri :
    let peer : Endpoint := .v4 0x0a000002 8410
    objectUri peer ⟨".", by decide⟩ =
        .ok "http://10.0.0.2:8410/powerapi/dist-datastore/objects" ∧
      objectUri peer ⟨"..", by decide⟩ =
        .ok "http://10.0.0.2:8410/powerapi/dist-datastore/objects" := by
  decide +kernel

/-- The key holds a slash, a blank, a sign that ends paths and one of percent. -/
theorem addresses_key_iff_reserved :
    let peer : Endpoint := .v6 1 80 0
    let key : Key := ⟨"a/b c?d%2f", by decide⟩
    peer.zone = 0 ∧
      ∃ segment,
        pathOfUri ("http://[::1]/powerapi/dist-datastore/objects" ++
            "/a%2Fb%20c%3Fd%252f") = objectPath.toList ++ '/' :: segment ∧
          StandsFor segment key := by
  intro peer key
  rcases addresses_key_iff peer rfl key with ⟨uri, addressed, segment, _⟩
  have same : objectUri peer key =
      .ok ("http://[::1]/powerapi/dist-datastore/objects" ++
        "/a%2Fb%20c%3Fd%252f") := by
    decide +kernel
  cases addressed.symm.trans same
  exact ⟨rfl, segment.2 (by decide)⟩

end QuotaRing.Peer
