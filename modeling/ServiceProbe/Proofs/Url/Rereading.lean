import ServiceProbe.Proofs.Url.Cutting
import ServiceProbe.Proofs.Url.Host

/-!
# Reading a URL again

The parts of a URL that was read are settled: nothing in them would be encoded, dropped or interpreted
once more. A client relies on this, as it writes its base URL, puts a path behind it and reads the
whole.

* `settledAuthority_of_parseAuthority`, `settled_of_parseSegments` — the parts are settled, by
  `SettledAuthority` and `SettledSegment`;
* `exists_settled` — so is the whole, if it is the URL of a service;
* `Settled.parse_append` — written up to the end of its authority and before a slash, it is read with
  the same scheme and authority, and what stands behind the slash says the rest (`continued`);
* `scheme_of_parse_append` — of any URL at least the scheme is read again.

An authority is read back in pieces: the mark for credentials is the last one, since nothing behind it
and nothing settled before it has that mark, and the host ends at a colon outside brackets.
-/

namespace ServiceProbe.Url

/-! ### Authorities -/

/-- An authority as reading gives it with a common scheme. -/
structure SettledAuthority (scheme : List Char) (authority : Authority) : Prop where
  user : ∀ c ∈ authority.user, Plain EncodeSet.userinfo c
  password : ∀ text, authority.password = some text → text ≠ [] ∧ ∀ c ∈ text, Plain EncodeSet.userinfo c
  host : authority.host.Canonical
  port : ∀ port, authority.port = some port → port < 65536 ∧ defaultPort? scheme ≠ some port

/-- Credentials as they are written before a host. -/
def renderUserinfo (user : List Char) (password : Option (List Char)) : List Char :=
  user ++ (match password with
    | some password => ':' :: password
    | none => [])

/-- A character that is not encoded in credentials means nothing in an authority. -/
theorem inner_of_plain {c : Char} (plain : Plain EncodeSet.userinfo c) :
    Inner c ∧ c ≠ '@' ∧ c ≠ ':' :=
  @of_ascii (fun c => EncodeSet.userinfo c = false → Inner c ∧ c ≠ '@' ∧ c ≠ ':') (by decide) c
    plain.1 plain.2

theorem parsePort_cases {scheme text rest : List Char} {port : Option Nat}
    (read : parsePort scheme text = .ok (port, rest)) :
    ∀ n, port = some n → n < 65536 ∧ defaultPort? scheme ≠ some n := by
  rw [parsePort] at read
  simp only at read
  split at read
  · split at read
    · exact absurd read (by simp)
    · next fits =>
      split at read
      · obtain ⟨rfl, -⟩ := Prod.mk.inj (Except.ok.inj read)
        simp
      · next other =>
        obtain ⟨rfl, -⟩ := Prod.mk.inj (Except.ok.inj read)
        intro n same
        rw [← Option.some.inj same]
        simp only [Bool.or_eq_true, decide_eq_true_eq, not_or] at other
        exact ⟨by omega, other.2⟩
  · exact absurd read (by simp)

theorem parsePort_nil (scheme : List Char) : parsePort scheme [] = .ok (none, []) := by
  simp [parsePort]

/-- A port is read back. -/
theorem parsePort_toDigits {scheme : List Char} {port : Nat} (small : port < 65536)
    (other : defaultPort? scheme ≠ some port) :
    parsePort scheme (Nat.toDigits 10 port) = .ok (some port, []) := by
  have digits : (Nat.toDigits 10 port).takeWhile Char.isDigit = Nat.toDigits 10 port :=
    List.takeWhile_eq_self_iff.2 fun c => Host.isDigit_of_mem_toDigits
  have value : (Nat.toDigits 10 port).foldl (fun n c => 10 * n + (c.toNat - '0'.toNat)) 0 = port :=
    Nat.ofDigitChars_ten_toDigits
  have some : (Nat.toDigits 10 port).isEmpty = false := by
    rw [← Bool.not_eq_true, List.isEmpty_iff]
    exact Nat.toDigits_ne_nil
  rw [parsePort, digits, List.drop_length]
  simp only [value, some, other]
  simp
  omega

/-- The authority in the texts before and behind the mark for credentials, with a common scheme. -/
def readAuthority (scheme userinfo hostAndPort : List Char) : Except UrlFault (Authority × List Char) :=
  let (user, password) := parseUserinfo userinfo
  let (hostText, portText) := splitHost false hostAndPort
  match Host.parse hostText with
  | .error fault => .error fault
  | .ok host =>
    let authority : Authority := { user, password, host }
    if host = Host.empty && (portText.isSome || authority.hasCredentials) then .error .emptyHost
    else
      match parsePort scheme (portText.getD []) with
      | .error fault => .error fault
      | .ok (port, rest) => .ok ({ authority with port }, rest)

theorem bind_readAuthority {scheme : List Char} (special : isSpecial scheme)
    (userinfo hostAndPort : List Char) :
    (do
      let (user, password) := parseUserinfo userinfo
      let (hostText, portText) := splitHost false hostAndPort
      let host ← if isSpecial scheme then Host.parse hostText else Host.parseOpaque hostText
      let authority : Authority := { user, password, host }
      if host = Host.empty && (portText.isSome || authority.hasCredentials) then throw .emptyHost
      let (port, rest) ← parsePort scheme (portText.getD [])
      return ({ authority with port }, rest)) = readAuthority scheme userinfo hostAndPort := by
  rw [readAuthority]
  simp only [if_pos special]
  cases Host.parse (splitHost false hostAndPort).1 with
  | error fault => rfl
  | ok host =>
    simp only [bind, Except.bind]
    split
    · rfl
    · cases parsePort scheme ((splitHost false hostAndPort).2.getD []) <;> rfl

/-- Without a mark for credentials, everything is host and port. -/
theorem parseAuthority_of_none {scheme text : List Char} {ends : Bool} (special : isSpecial scheme)
    (none : splitAtLast? '@' text = none) :
    parseAuthority scheme ends text = readAuthority scheme [] text := by
  rw [parseAuthority, none]
  exact bind_readAuthority special [] text

theorem parseAuthority_of_some {scheme text userinfo hostAndPort : List Char} {ends : Bool}
    (special : isSpecial scheme) (found : splitAtLast? '@' text = some (userinfo, hostAndPort))
    (some : hostAndPort ≠ []) :
    parseAuthority scheme ends text = readAuthority scheme userinfo hostAndPort := by
  rw [parseAuthority, found]
  split
  · next same => exact absurd same (Option.some_ne_none _)
  · next same => exact absurd (Prod.mk.inj (Option.some.inj same)).2 some
  · next parts _ same =>
    rw [← Option.some.inj same]
    exact bind_readAuthority special userinfo hostAndPort

/-- An authority is read from credentials and the rest. -/
theorem exists_readAuthority {scheme text rest : List Char} {ends : Bool} {authority : Authority}
    (special : isSpecial scheme) (read : parseAuthority scheme ends text = .ok (authority, rest)) :
    ∃ userinfo hostAndPort, readAuthority scheme userinfo hostAndPort = .ok (authority, rest) := by
  rw [parseAuthority] at read
  split at read
  · exact ⟨[], text, (bind_readAuthority special [] text).symm.trans read⟩
  · cases ends with
    | true => exact ⟨[], [], (bind_readAuthority special [] []).symm.trans read⟩
    | false =>
      have refused : (.error .emptyHost : Except UrlFault (Authority × List Char)) = _ := read
      exact nomatch refused
  · next parts _ _ =>
    exact ⟨parts.1, parts.2, (bind_readAuthority special parts.1 parts.2).symm.trans read⟩

theorem encode_ne_nil {set : EncodeSet} {text : List Char} (some : text ≠ []) : encode set text ≠ [] := by
  obtain ⟨c, rest, rfl⟩ := List.exists_cons_of_ne_nil some
  rw [encode_cons]
  refine List.append_ne_nil_of_left_ne_nil ?_ _
  by_cases plain : Plain set c
  · rw [encodeChar_of_plain plain]
    exact List.cons_ne_nil c []
  · rw [encodeChar_of_not_plain plain]
    obtain ⟨byte, bytes, same⟩ := List.exists_cons_of_ne_nil (String.utf8EncodeChar_ne_nil (c := c))
    rw [same]
    exact List.cons_ne_nil _ _

/-- **What is read as an authority is settled.** -/
theorem settledAuthority_of_parseAuthority {scheme text rest : List Char} {ends : Bool}
    {authority : Authority} (special : isSpecial scheme)
    (read : parseAuthority scheme ends text = .ok (authority, rest)) :
    SettledAuthority scheme authority := by
  obtain ⟨userinfo, hostAndPort, read⟩ := exists_readAuthority special read
  rw [readAuthority] at read
  simp only at read
  split at read
  · exact nomatch read
  · next host isHost =>
    split at read
    · exact nomatch read
    · split at read
      · exact nomatch read
      · next port rest' isPort =>
        obtain ⟨rfl, -⟩ := Prod.mk.inj (Except.ok.inj read)
        -- user and password are encoded as they are read, and an empty password is dropped
        refine ⟨?_, ?_, Host.canonical_of_parse isHost, parsePort_cases isPort⟩
        · exact fun c => plain_of_mem_encode EncodeSet.userinfo_keepsCodes
        · intro text isPassword
          obtain ⟨password, kept, rfl⟩ := Option.map_eq_some_iff.1 isPassword
          have some : password ≠ [] := by simpa using (Option.filter_eq_some_iff.1 kept).2
          exact ⟨encode_ne_nil some, fun c => plain_of_mem_encode EncodeSet.userinfo_keepsCodes⟩

/-- The host and the port as they are written. -/
def renderHostAndPort (authority : Authority) : List Char :=
  authority.host.render ++ (match authority.port with
    | some port => ':' :: Nat.toDigits 10 port
    | none => [])

theorem render_of_hasCredentials {authority : Authority} (credentials : authority.hasCredentials) :
    authority.render =
      renderUserinfo authority.user authority.password ++ '@' :: renderHostAndPort authority := by
  rw [Authority.render, if_pos credentials, renderUserinfo.eq_def, renderHostAndPort]
  simp only [List.append_assoc, List.singleton_append]
  rfl

theorem render_of_not_hasCredentials {authority : Authority} (credentials : ¬ authority.hasCredentials) :
    authority.render = renderHostAndPort authority ∧
      renderUserinfo authority.user authority.password = [] := by
  constructor
  · rw [Authority.render, if_neg credentials]
    rfl
  · simp only [Authority.hasCredentials, Bool.or_eq_true, not_or, Bool.not_eq_true,
      Bool.not_eq_false', List.isEmpty_iff, Option.isSome_eq_false_iff, Option.isNone_iff_eq_none] at credentials
    rw [credentials.1, credentials.2]
    rfl

namespace SettledAuthority

variable {scheme : List Char} {authority : Authority} (settled : SettledAuthority scheme authority)

include settled

/-- The text before the host is read back. -/
theorem parseUserinfo_render :
    parseUserinfo (renderUserinfo authority.user authority.password) =
      (authority.user, authority.password) := by
  have noColon : ':' ∉ authority.user := fun member => (inner_of_plain (settled.user _ member)).2.2 rfl
  have user : encode EncodeSet.userinfo authority.user = authority.user := encode_eq_self settled.user
  simp only [parseUserinfo, renderUserinfo.eq_def]
  -- the user has no colon in it, so the first colon is the one in front of the password
  cases isPassword : authority.password with
  | none =>
    rw [List.append_nil, splitAtMark_of_not_mem noColon]
    simp [user]
  | some password =>
    obtain ⟨some, plain⟩ := settled.password password isPassword
    have kept : encode EncodeSet.userinfo password = password := encode_eq_self plain
    rw [splitAtMark_append_cons noColon]
    simp [user, kept, some]

/-- Neither credentials nor an end of the authority are seen in the host and the port. -/
theorem inner_of_mem_hostAndPort {c : Char} (member : c ∈ renderHostAndPort authority) :
    Inner c ∧ c ≠ '@' := by
  rw [renderHostAndPort, List.mem_append] at member
  rcases member with inHost | inPort
  · exact settled.host.inner inHost
  · split at inPort
    · rcases List.mem_cons.1 inPort with rfl | digit
      · decide
      · have isDigit := Host.isDigit_of_mem_toDigits digit
        have named := Host.named_of_not_isForbidden (Host.kept_of_isDigit_decimal isDigit).2
        exact ⟨named.inner, named.noAt⟩
    · exact absurd inPort List.not_mem_nil

theorem readAuthority_render :
    readAuthority scheme (renderUserinfo authority.user authority.password)
      (renderHostAndPort authority) = .ok (authority, []) := by
  have noEmpty : authority.host ≠ Host.empty := fun empty => settled.host.render_ne_nil (by rw [empty]; rfl)
  have port : parsePort scheme ((authority.port.map (Nat.toDigits 10)).getD []) =
      .ok (authority.port, []) := by
    cases isPort : authority.port with
    | none => exact parsePort_nil scheme
    | some port =>
      obtain ⟨small, other⟩ := settled.port port isPort
      exact parsePort_toDigits small other
  -- the port stands behind the first colon that is not in the host
  have cut : splitHost false (renderHostAndPort authority) =
      (authority.host.render, authority.port.map (Nat.toDigits 10)) := by
    rw [renderHostAndPort, settled.host.splitHost_render]
    cases authority.port <;> simp [splitHost]
  rw [readAuthority, settled.parseUserinfo_render, cut]
  simp only [Host.parse_render settled.host, noEmpty, decide_false, Bool.false_and,
    Bool.false_eq_true, if_false, port]

/-- **A settled authority is read back.** -/
theorem parseAuthority_render {ends : Bool} (special : isSpecial scheme) :
    parseAuthority scheme ends authority.render = .ok (authority, []) := by
  have noAt : '@' ∉ renderHostAndPort authority :=
    fun member => (settled.inner_of_mem_hostAndPort member).2 rfl
  have some : renderHostAndPort authority ≠ [] :=
    List.append_ne_nil_of_left_ne_nil settled.host.render_ne_nil _
  -- no sign for credentials stands in the host, so the last one ends them
  by_cases credentials : authority.hasCredentials
  · rw [render_of_hasCredentials credentials,
      parseAuthority_of_some special (splitAtLast?_append_cons noAt) some]
    exact settled.readAuthority_render
  · obtain ⟨whole, none⟩ := render_of_not_hasCredentials credentials
    have read := settled.readAuthority_render
    rw [none] at read
    rw [whole, parseAuthority_of_none special (splitAtLast?_of_not_mem noAt)]
    exact read

/-- **An authority does not end before its end.** -/
theorem inner {c : Char} (member : c ∈ authority.render) : Inner c := by
  by_cases credentials : authority.hasCredentials
  · rw [render_of_hasCredentials credentials, renderUserinfo.eq_def, List.mem_append, List.mem_append,
      List.mem_cons] at member
    -- it stands in the user, in the password, is the sign behind them, or stands in the host
    rcases member with (inUser | inPassword) | rfl | later
    · exact (inner_of_plain (settled.user c inUser)).1
    · split at inPassword
      · next password isPassword =>
        rcases List.mem_cons.1 inPassword with rfl | inside
        · decide
        · exact (inner_of_plain ((settled.password password isPassword).2 c inside)).1
      · exact absurd inPassword List.not_mem_nil
    · decide
    · exact (settled.inner_of_mem_hostAndPort later).1
  · rw [(render_of_not_hasCredentials credentials).1] at member
    exact (settled.inner_of_mem_hostAndPort member).1

theorem render_ne_nil : authority.render ≠ [] := by
  have some : renderHostAndPort authority ≠ [] :=
    List.append_ne_nil_of_left_ne_nil settled.host.render_ne_nil _
  by_cases credentials : authority.hasCredentials
  · rw [render_of_hasCredentials credentials]
    exact List.append_ne_nil_of_right_ne_nil _ (List.cons_ne_nil _ _)
  · rwa [(render_of_not_hasCredentials credentials).1]

end SettledAuthority

/-! ### Paths -/

/-- A segment as reading gives it with a common scheme: it is encoded, holds no slashes and is no dot. -/
structure SettledSegment (segment : List Char) : Prop where
  plain : ∀ c ∈ segment, Plain EncodeSet.path c
  noSlash : ∀ c ∈ segment, isSlash c = false
  noDot : isSingleDot segment = false
  noDots : isDoubleDot segment = false

theorem settledSegment_nil : SettledSegment [] :=
  ⟨by simp, by simp, by decide, by decide⟩

/-- A segment that is a dot is carried out. -/
def isDot (segment : List Char) : Bool :=
  isDoubleDot segment || isSingleDot segment

/-- Segments without dots before others are kept. -/
theorem resolve_append {front rest done : List (List Char)}
    (settled : ∀ segment ∈ front, SettledSegment segment) :
    resolve id done (front ++ rest) = resolve id (front.reverse ++ done) rest := by
  induction front generalizing done with
  | nil => rfl
  | cons segment front ih =>
    obtain ⟨first, more⟩ := List.forall_mem_cons.1 settled
    have itself : (if done.isEmpty then id segment else segment) = segment := by split <;> rfl
    rw [List.cons_append, resolve, if_neg (by simp [first.noDots]), if_neg (by simp [first.noDot]),
      ih more, itself]
    simp

/-- What carrying out the dots leaves is settled. -/
theorem settled_of_resolve {done segments : List (List Char)}
    (settled : ∀ segment ∈ done, SettledSegment segment)
    (sound : ∀ segment ∈ segments, ∀ c ∈ segment, Plain EncodeSet.path c ∧ isSlash c = false) :
    ∀ segment ∈ resolve id done segments, SettledSegment segment := by
  induction segments generalizing done with
  | nil =>
    rw [resolve]
    exact fun segment member => settled segment (List.mem_reverse.1 member)
  | cons segment rest ih =>
    obtain ⟨first, more⟩ := List.forall_mem_cons.1 sound
    have ended : ∀ {left : List (List Char)}, (∀ segment ∈ left, SettledSegment segment) →
        ∀ segment ∈ (if rest.isEmpty then [] :: left else left), SettledSegment segment := by
      intro left all
      split
      · exact List.forall_mem_cons.2 ⟨settledSegment_nil, all⟩
      · exact all
    rw [resolve]
    split
    · -- two dots take back a segment, unless it is a drive
      refine ih (ended ?_) more
      split
      · exact settled
      · exact fun segment member => settled segment (List.mem_of_mem_tail member)
    · split
      · exact ih (ended settled) more
      · next noDots noDot =>
        refine ih (List.forall_mem_cons.2 ⟨?_, settled⟩) more
        have itself : (if done.isEmpty then id segment else segment) = segment := by split <;> rfl
        rw [itself]
        exact ⟨fun c h => (first c h).1, fun c h => (first c h).2, by simpa using noDot,
          by simpa using noDots⟩

/-- The last segment is the last one of the text, or nothing in place of a dot. -/
theorem getLast?_resolve {done segments : List (List Char)} {last : List Char}
    (isLast : segments.getLast? = some last) :
    (resolve id done segments).getLast? = some (if isDot last then [] else last) := by
  induction segments generalizing done with
  | nil => exact absurd isLast (Option.some_ne_none last).symm
  | cons segment rest ih =>
    -- only the last segment leaves an empty one behind where it is made of dots
    match rest with
    | [] =>
      rw [List.getLast?_singleton] at isLast
      obtain rfl := Option.some.inj isLast
      rw [resolve, isDot]
      split
      · next noDots => simp [resolve, noDots]
      · next noDots =>
        split
        · next noDot => simp [resolve, noDot]
        · next noDot => simp [resolve, noDots, noDot]
    | next :: rest =>
      rw [List.getLast?_cons_cons] at isLast
      rw [resolve]
      split
      · exact ih isLast
      · split
        · exact ih isLast
        · exact ih isLast

section special

variable {scheme : List Char} (special : isSpecial scheme)

include special

theorem encodedSegments_eq (text : List Char) :
    encodedSegments scheme text = (splitBy isSlash text).map (encode EncodeSet.path) := by
  rw [encodedSegments]
  simp only [special, Bool.true_and]
  rfl

/-- **What is read as a path is settled.** -/
theorem settled_of_parseSegments (text : List Char) :
    ∀ segment ∈ parseSegments scheme text, SettledSegment segment := by
  rw [parseSegments, encodedSegments_eq special]
  refine settled_of_resolve (by simp) fun segment member c inside => ?_
  obtain ⟨part, among, rfl⟩ := List.mem_map.1 member
  refine ⟨plain_of_mem_encode EncodeSet.path_keepsCodes inside, ?_⟩
  rcases of_mem_encode inside with ⟨inPart, -⟩ | rfl | isDigit
  · exact (of_mem_splitBy among inPart).2
  · decide
  · exact (Host.inner_of_isSome_digitValue? isDigit).1.2.1

theorem encodedSegments_append_cons (before after : List Char) :
    encodedSegments scheme (before ++ '/' :: after) =
      encodedSegments scheme before ++ encodedSegments scheme after := by
  simp only [encodedSegments_eq special, splitBy_append_cons before after (show isSlash '/' from rfl),
    List.map_append]

theorem encodedSegments_of_settled {first : List Char} {more : List (List Char)}
    (settled : ∀ segment ∈ first :: more, SettledSegment segment) :
    encodedSegments scheme (first ++ more.flatMap ('/' :: ·)) = first :: more := by
  have parts : splitBy isSlash (first ++ more.flatMap ('/' :: ·)) = first :: more :=
    splitBy_append_flatMap rfl fun segment member => (settled segment member).noSlash
  rw [encodedSegments_eq special, parts]
  exact (List.map_congr_left fun segment member => encode_eq_self (settled segment member).plain).trans
    (List.map_id _)

/-- **A settled path is read back.** -/
theorem parseSegments_of_settled {first : List Char} {more : List (List Char)}
    (settled : ∀ segment ∈ first :: more, SettledSegment segment) :
    parseSegments scheme (first ++ more.flatMap ('/' :: ·)) = first :: more := by
  rw [parseSegments, encodedSegments_of_settled special settled, ← List.append_nil (first :: more),
    resolve_append settled]
  simp [resolve]

/-- The last segment is the end of the text, encoded, or nothing in place of a dot. -/
theorem getLast?_parseSegments {text last : List Char}
    (isLast : (splitBy isSlash text).getLast? = some last) :
    (parseSegments scheme text).getLast? =
      some (if isDot (encode EncodeSet.path last) then [] else encode EncodeSet.path last) := by
  rw [parseSegments, encodedSegments_eq special]
  refine getLast?_resolve ?_
  rw [List.getLast?_map, isLast]
  rfl

theorem parseSegments_ne_nil (text : List Char) : parseSegments scheme text ≠ [] := by
  obtain ⟨last, isLast, -⟩ := exists_getLast?_splitBy isSlash text
  intro none
  have found := getLast?_parseSegments special isLast
  rw [none] at found
  exact Option.some_ne_none _ found.symm

end special

/-! ### Whole URLs -/

theorem exists_of_bind_eq_ok {ε α β : Type} {x : Except ε α} {f : α → Except ε β} {result : β}
    (h : x >>= f = .ok result) : ∃ value, x = .ok value ∧ f value = .ok result := by
  cases x with
  | error e => exact nomatch (show Except.error e = Except.ok result from h)
  | ok value => exact ⟨value, rfl, h⟩

/-- The schemes by which a service is asked. -/
def IsHttp (scheme : List Char) : Prop :=
  scheme = "http".toList ∨ scheme = "https".toList

theorem isHttp_iff {url : Url} : url.isHttp ↔ IsHttp url.scheme := by
  rw [isHttp, Bool.or_eq_true, decide_eq_true_eq, decide_eq_true_eq]
  rfl

theorem IsHttp.isSpecial {scheme : List Char} (http : IsHttp scheme) : Url.isSpecial scheme := by
  rcases http with rfl | rfl <;> decide

theorem IsHttp.isFile {scheme : List Char} (http : IsHttp scheme) : ¬ Url.isFile scheme := by
  rcases http with rfl | rfl <;> decide

theorem IsHttp.splitScheme? {scheme : List Char} (http : IsHttp scheme) (rest : List Char) :
    Url.splitScheme? (scheme ++ ':' :: rest) = some (scheme, rest) := by
  have noColon : ':' ∉ scheme := by rcases http with rfl | rfl <;> decide
  rw [Url.splitScheme?, splitAtMark_append_cons noColon]
  rcases http with rfl | rfl <;> rfl

theorem IsHttp.isEdge {scheme : List Char} (http : IsHttp scheme) :
    ∀ c ∈ scheme, Url.isEdge c = false := by
  rcases http with rfl | rfl <;> exact List.all_iff_forall_prop.1 (by decide)

/-- What a text after the scheme is read as, for a scheme by which a service is asked. -/
def ofRest (scheme rest : List Char) : Except UrlFault Url :=
  let (beforeFragment, fragment) := splitAtMark '#' rest
  let (main, query) := splitAtMark '?' beforeFragment
  let (authorityText, pathText) := cutAt isSlash (main.dropWhile isSlash)
  match parseAuthority scheme false authorityText with
  | .error fault => .error fault
  | .ok (authority, _) =>
    .ok {
      scheme
      authority
      path := .segments (parseSegments scheme (pathText.drop 1))
      query := query.map (encode EncodeSet.specialQuery)
      fragment := fragment.map (encode EncodeSet.fragment) }

theorem parse_eq_ofRest {text scheme rest : List Char}
    (cut : splitScheme? (clean text) = some (scheme, rest)) (http : IsHttp scheme) :
    parse text = ofRest scheme rest := by
  rw [parse, cut]
  simp only [if_neg http.isFile, if_pos http.isSpecial, parseSpecial, ofRest]
  cases parseAuthority scheme false
    (cutAt isSlash ((splitAtMark '?' (splitAtMark '#' rest).1).1.dropWhile isSlash)).1 <;> rfl

/-- Any URL is read with the scheme of its text. -/
theorem exists_splitScheme? {text : List Char} {url : Url} (read : parse text = .ok url) :
    ∃ rest, splitScheme? (clean text) = some (url.scheme, rest) := by
  rw [parse] at read
  split at read
  · exact nomatch read
  · next scheme rest cut =>
    -- whichever way the rest is read, the scheme is the one that was cut off
    simp only at read
    split at read
    · obtain ⟨parts, -, read⟩ := exists_of_bind_eq_ok read
      rw [← Except.ok.inj read]
      exact ⟨rest, cut⟩
    · split at read
      · obtain ⟨parts, -, read⟩ := exists_of_bind_eq_ok read
        rw [← Except.ok.inj read]
        exact ⟨rest, cut⟩
      · obtain ⟨parts, -, read⟩ := exists_of_bind_eq_ok read
        rw [← Except.ok.inj read]
        exact ⟨rest, cut⟩

theorem isSchemeChar_of_isAlphanum {c : Char} (isAlphanum : c.isAlphanum) : isSchemeChar c := by
  rw [isSchemeChar, isAlphanum, Bool.true_or]

/-- Schemes are in ASCII. -/
theorem toNat_lt_of_isSchemeChar {c : Char} (isScheme : isSchemeChar c) : c.toNat < 0x80 := by
  rcases Bool.or_eq_true_iff.1 isScheme with isAlphanum | among
  · rcases Bool.or_eq_true_iff.1 isAlphanum with letter | digit
    · rcases Bool.or_eq_true_iff.1 letter with capital | small
      · exact (UInt32.le_iff_toNat_le.1 (of_decide_eq_true capital).2).trans_lt (by decide)
      · have upto := of_decide_eq_true (Bool.and_eq_true_iff.1 small).2
        exact (UInt32.le_iff_toNat_le.1 upto).trans_lt (by decide)
    · exact (toNat_le_of_isDigit digit).trans_lt (by decide)
  · have all : ∀ d ∈ ['+', '-', '.'], d.toNat < 0x80 := List.all_iff_forall_prop.1 (by decide)
    exact all c (List.contains_iff_mem.1 among)

/-- A letter of a scheme is one when it is made small, and then it stays. -/
theorem isSchemeChar_toLower {c : Char} (isScheme : isSchemeChar c) :
    isSchemeChar c.toLower ∧ c.toLower.toLower = c.toLower ∧ isEdge c.toLower = false ∧ c.toLower ≠ ':' :=
  @of_ascii (fun c => isSchemeChar c → isSchemeChar c.toLower ∧ c.toLower.toLower = c.toLower ∧
    isEdge c.toLower = false ∧ c.toLower ≠ ':') (by decide) c (toNat_lt_of_isSchemeChar isScheme) isScheme

theorem isAlpha_toLower {c : Char} (isAlpha : c.isAlpha) : c.toLower.isAlpha := by
  have isScheme : isSchemeChar c :=
    isSchemeChar_of_isAlphanum (by rw [Char.isAlphanum, isAlpha, Bool.true_or])
  exact @of_ascii (fun c => c.isAlpha → c.toLower.isAlpha) (by decide) c (toNat_lt_of_isSchemeChar isScheme)
    isAlpha

/-- **Schemes are read again.** The scheme of a text is written small, and before another text it is the
scheme. -/
theorem splitScheme?_append {text scheme rest : List Char} (cut : splitScheme? text = some (scheme, rest))
    (after : List Char) :
    (∀ c ∈ scheme, isEdge c = false) ∧ splitScheme? (scheme ++ ':' :: after) = some (scheme, after) := by
  rw [splitScheme?] at cut
  split at cut
  · next name _ _ =>
    split at cut
    · next isName =>
      obtain ⟨rfl, -⟩ := Prod.mk.inj (Option.some.inj cut)
      obtain ⟨start, all⟩ := Bool.and_eq_true_iff.1 isName
      have small : ∀ c ∈ Text.lowerAscii name,
          isSchemeChar c ∧ c.toLower = c ∧ isEdge c = false ∧ c ≠ ':' := by
        intro c member
        obtain ⟨d, among, rfl⟩ := List.mem_map.1 member
        exact isSchemeChar_toLower (List.all_eq_true.1 all d among)
      -- what the first colon ends is the scheme, as there is none in it
      have noColon : ':' ∉ Text.lowerAscii name := fun member => (small ':' member).2.2.2 rfl
      have startSmall : (Text.lowerAscii name).head?.any Char.isAlpha := by
        obtain ⟨c, isHead, isAlpha⟩ := (Option.any_eq_true _ _).1 start
        rw [Text.lowerAscii, List.head?_map, isHead]
        exact isAlpha_toLower isAlpha
      have allSmall : (Text.lowerAscii name).all isSchemeChar :=
        List.all_eq_true.2 fun c member => (small c member).1
      have again : Text.lowerAscii (Text.lowerAscii name) = Text.lowerAscii name :=
        (List.map_congr_left fun c member => (small c member).2.1).trans (List.map_id _)
      refine ⟨fun c member => (small c member).2.2.1, ?_⟩
      rw [splitScheme?, splitAtMark_append_cons noColon]
      simp only [startSmall, allSmall, again, Bool.and_self, if_true]
    · exact nomatch cut
  · exact nomatch cut

/-- **The scheme stays.** A text that begins with the scheme of a URL that was read is read with this
scheme. -/
theorem scheme_of_parse_append {text rest : List Char} {url url' : Url} (read : parse text = .ok url)
    (reread : parse (url.scheme ++ ':' :: rest) = .ok url') : url'.scheme = url.scheme := by
  obtain ⟨_, cut⟩ := exists_splitScheme? read
  obtain ⟨_, cut'⟩ := exists_splitScheme? reread
  obtain ⟨sound, again⟩ := splitScheme?_append cut (cleanEnd rest)
  rw [clean_append_cons sound (by decide), again] at cut'
  exact (Prod.mk.inj (Option.some.inj cut')).1.symm

/-- A URL by which a service can be asked, as reading gives it. -/
structure Settled (url : Url) (authority : Authority) (segments : List (List Char)) : Prop where
  http : IsHttp url.scheme
  isAuthority : url.authority = some authority
  isPath : url.path = .segments segments
  authority : SettledAuthority url.scheme authority
  nonempty : segments ≠ []
  segment : ∀ segment ∈ segments, SettledSegment segment

/-- **What is read as the URL of a service is settled.** -/
theorem exists_settled {text : List Char} {url : Url} (read : parse text = .ok url) (http : url.isHttp) :
    ∃ authority segments, Settled url authority segments := by
  obtain ⟨rest, cut⟩ := exists_splitScheme? read
  have isService := isHttp_iff.1 http
  -- the scheme is known before it is known that it belongs to this URL
  obtain ⟨scheme, isScheme⟩ : ∃ scheme, scheme = url.scheme := ⟨_, rfl⟩
  rw [← isScheme] at cut isService
  rw [parse_eq_ofRest cut isService, ofRest] at read
  simp only at read
  split at read
  · exact nomatch read
  · next authority left isAuthority =>
    obtain rfl := Except.ok.inj read
    exact ⟨authority, _, isService, rfl, rfl,
      settledAuthority_of_parseAuthority isService.isSpecial isAuthority,
      parseSegments_ne_nil isService.isSpecial _, settled_of_parseSegments isService.isSpecial _⟩

/-- The URL with what a text after the first slash of its path says. -/
def continued (url : Url) (rest : List Char) : Url :=
  let (beforeFragment, fragment) := splitAtMark '#' rest
  let (main, query) := splitAtMark '?' beforeFragment
  { url with
    path := .segments (parseSegments url.scheme main)
    query := query.map (encode EncodeSet.specialQuery)
    fragment := fragment.map (encode EncodeSet.fragment) }

namespace Settled

variable {url : Url} {authority : Authority} {segments : List (List Char)}
  (settled : Settled url authority segments)

include settled

/-- The text of the URL up to its path. -/
theorem render_eq : url.render = url.scheme ++ ':' :: '/' :: '/' :: (authority.render ++
    (segments.flatMap ('/' :: ·) ++ (marked '?' url.query ++ marked '#' url.fragment))) := by
  rw [render, renderBase, renderAuthority, settled.isAuthority, settled.isPath, UrlPath.render]
  simp

/-- **Reading again.** The scheme and the authority of a URL that was read stay the same, whatever
stands behind them after a slash. -/
theorem parse_append (rest : List Char) :
    parse (url.scheme ++ ':' :: '/' :: '/' :: (authority.render ++ '/' :: rest)) =
      .ok (url.continued (cleanEnd rest)) := by
  have inner := fun c (member : c ∈ authority.render) => settled.authority.inner member
  -- nothing is dropped before the path
  have sound : ∀ d ∈ url.scheme ++ ':' :: '/' :: '/' :: authority.render, isEdge d = false := by
    refine List.forall_mem_append.2 ⟨settled.http.isEdge, ?_⟩
    refine List.forall_mem_cons.2 ⟨by decide, List.forall_mem_cons.2 ⟨by decide,
      List.forall_mem_cons.2 ⟨by decide, fun c member => (inner c member).1⟩⟩⟩
  have cleaned := @clean_append_cons (url.scheme ++ ':' :: '/' :: '/' :: authority.render) rest '/' sound
    (by decide)
  rw [List.append_assoc, List.append_assoc] at cleaned
  have cut := settled.http.splitScheme? ('/' :: '/' :: (authority.render ++ '/' :: cleanEnd rest))
  -- the marks for the fragment and the query are behind the authority
  have marks : ∀ mark ∈ ['#', '?'], ∀ text : List Char,
      splitAtMark mark ('/' :: '/' :: (authority.render ++ '/' :: text)) =
        ('/' :: '/' :: (authority.render ++ '/' :: (splitAtMark mark text).1),
          (splitAtMark mark text).2) := by
    intro mark isMark text
    have outside : mark ∉ '/' :: '/' :: (authority.render ++ ['/']) := by
      have notSlash : mark ≠ '/' := by rintro rfl; exact absurd isMark (by decide)
      have notInner : ¬ Inner mark := by
        rcases List.mem_pair.1 isMark with rfl | rfl <;> decide
      simp only [List.mem_cons, List.mem_append, List.not_mem_nil, or_false, not_or]
      exact ⟨notSlash, notSlash, fun member => notInner (inner mark member), notSlash⟩
    have cut := splitAtMark_append outside text
    simpa using cut
  -- the authority does not begin with a slash, so just the two before it are passed over
  have slashes : ∀ main : List Char,
      ('/' :: '/' :: (authority.render ++ '/' :: main)).dropWhile isSlash =
        authority.render ++ '/' :: main := by
    intro main
    obtain ⟨c, text, same⟩ := List.exists_cons_of_ne_nil settled.authority.render_ne_nil
    have notSlash : isSlash c = false := (inner c (by rw [same]; exact List.mem_cons_self)).2.1
    rw [same, List.cons_append, List.dropWhile_cons_of_pos (by decide),
      List.dropWhile_cons_of_pos (by decide), List.dropWhile_cons_of_neg (by simp [notSlash])]
  have authorityText : ∀ main : List Char,
      cutAt isSlash (authority.render ++ '/' :: main) = (authority.render, '/' :: main) := fun main =>
    cutAt_append_cons (fun c member => (inner c member).2.1) (by decide)
  rw [parse_eq_ofRest (cleaned ▸ cut) settled.http, ofRest, continued]
  simp only [marks '#' (by decide), marks '?' (by decide), slashes, authorityText,
    settled.authority.parseAuthority_render settled.http.isSpecial, settled.isAuthority]
  rfl

end Settled

end ServiceProbe.Url
