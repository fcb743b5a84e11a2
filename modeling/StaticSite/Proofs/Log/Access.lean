/-
  ACCESS LINES: what a line of the access log tells.

  An entry is made of what a request may hold and of the name of its client (`Proper`).  None of its
  texts ends a line, so neither does the entry (`isLine_line`).

  A line is read from the left as long as a text is free of the character behind it: client, time,
  method, target, version, status and size all end at such a character (`common_cancel`).  The duration
  stands at the end, and is read from the right.  Between them are Referer and User-Agent, and a quote,
  a blank and a quote between the two; they are written as they came, with the quotes that are in them.
  So a combined line tells everything but where the one ends and the other begins, and it tells that too
  where no quote can be mistaken (`combined_tells`).

  Numbered structure:
    §1  requests and clients
    §2  entries, and that they are lines
    §3  the common line, read from the left
    §4  the combined line
-/
import StaticSite.Log.Access
import StaticSite.Proofs.Http.Targets
import StaticSite.Proofs.Text.Lexemes
import StaticSite.Proofs.Text.OneLine
import StaticSite.Server.Address

namespace StaticSite

open Text

/-! ## §1 Requests and clients -/

namespace Http

theorem isSolid_of_isToken {s : String} (h : isToken s.toList = true) : IsSolid s := by
  have chars := List.all_eq_true.1 (Bool.and_eq_true_iff.1 h).2
  exact fun c hc => decide_eq_true (le_toNat_of_kind (by decide) (chars c hc))

/-- The path and the query of a target hold no blank. -/
theorem Uri.WellFormed.isSolid {uri : Uri} (h : uri.WellFormed) :
    IsSolid uri.path ∧ ∀ query, uri.query = some query → IsSolid query := by
  refine ⟨fun c hc => decide_eq_true (le_toNat_of_kind (by decide) (h.path c hc)), ?_⟩
  intro query hquery c hc
  exact decide_eq_true (le_toNat_of_kind (by decide) (h.query query hquery c hc))

/-- What is let through as a request has a token for its method, and a target that was read. -/
theorem of_build? {method target : String} {fields : List (String × String)} {request : Request}
    (h : Request.build? method target fields = some request) :
    isToken request.method.toList = true ∧ request.uri.WellFormed := by
  unfold Request.build? at h
  split at h
  next token =>
    split at h
    next uri headers huri _ =>
      cases h
      exact ⟨token, Uri.wellFormed_of_parse huri⟩
    next => cases h
  next => cases h

/-- A header that is text holds no control character but the tab. -/
theorem isLine_of_text? {headers : Headers} {name : HeaderName} {text : String}
    (h : headers.text? name = some text) : IsLine text := by
  obtain ⟨v, -, h⟩ := Option.bind_eq_some_iff.1 h
  unfold HeaderValue.text? at h
  split at h
  next ascii =>
    cases h
    refine madeOf_ofList fun c hc => ?_
    obtain ⟨b, hb, rfl⟩ := List.mem_map.1 hc
    rcases Bool.or_eq_true_iff.1 (List.all_eq_true.1 v.allowed b hb) with high | tab
    · have low := UInt8.le_iff_toNat_le.1 (of_decide_eq_true (Bool.and_eq_true_iff.1 high).1)
      have valid : b.toNat.isValidChar := .inl (Nat.lt_trans b.toNat_lt (by decide))
      refine isLineChar_of_le ?_
      rw [toNat_ofNat_of_valid valid]
      exact low
    · rw [eq_of_beq tab]
      decide
  next => cases h

end Http

namespace Server.Address

/-- An address as a log names it, without port and zone. -/
def host : Address → String
  | .four bytes _ => bytesText bytes
  | .six groups _ _ => sixText groups

theorem isSolid_bytesText (bytes : List Nat) : IsSolid (bytesText bytes) := by
  refine madeOf_intercalate (by decide) fun part hpart => ?_
  obtain ⟨n, -, rfl⟩ := List.mem_map.1 hpart
  exact isSolid_toString n

theorem isSolid_groupsText (groups : List Nat) : IsSolid (groupsText groups) := by
  refine madeOf_intercalate (by decide) fun part hpart => ?_
  obtain ⟨g, -, rfl⟩ := List.mem_map.1 hpart
  exact isSolid_digits (by decide) g

theorem isSolid_sixText (groups : List Nat) : IsSolid (sixText groups) := by
  have mapped : IsSolid "::ffff:" := by decide
  have gap : IsSolid "::" := by decide
  unfold sixText
  split
  next => exact mapped.append (isSolid_bytesText _)
  next =>
    dsimp only
    split
    next => exact ((isSolid_groupsText _).append gap).append (isSolid_groupsText _)
    next => exact isSolid_groupsText groups

/-- A client is named without blanks. -/
theorem isSolid_host (address : Address) : IsSolid address.host := by
  cases address with
  | four bytes port => exact isSolid_bytesText bytes
  | six groups zone port => exact isSolid_sixText groups

end Server.Address

namespace Log

/-! ## §2 Entries -/

namespace AccessEntry

/-- An entry of a request: its texts are free of the characters that stand behind them. -/
structure Proper (e : AccessEntry) : Prop where
  remote : IsSolid e.remote
  method : IsSolid e.method
  uri : Http.Uri.WellFormed ⟨e.path, e.query⟩
  version : ∃ version : Version, e.version = version.label
  referer : ∀ text, e.referer = some text → IsLine text
  userAgent : ∀ text, e.userAgent = some text → IsLine text

/-- Path and query as they were asked for. -/
def target (e : AccessEntry) : String := Http.Uri.text ⟨e.path, e.query⟩

/-- The length of the body, or a hyphen. -/
def sizeText (e : AccessEntry) : String :=
  match e.bodyBytes with
  | some n => toString n.toNat
  | none => "-"

/-- Where the request came from and what made it, as they stand between the outer quotes. -/
def origin (e : AccessEntry) : String := e.referer.getD "-" ++ "\" \"" ++ e.userAgent.getD "-"

theorem common_eq (e : AccessEntry) : e.common =
    e.remote ++ " - - [" ++ timeText e.time ++ "] \"" ++
      (e.method ++ " " ++ e.target ++ " HTTP/" ++ e.version) ++ "\" " ++ toString e.status ++ " " ++
      e.sizeText := by
  unfold common requestLine target Http.Uri.text sizeText
  cases e.query with
  | none => cases e.bodyBytes <;> simp
  | some query => cases e.bodyBytes <;> simp [String.append_assoc]

theorem combined_eq (e : AccessEntry) : e.combined =
    e.common ++ " \"" ++ e.origin ++ "\" " ++ toString e.microseconds.toNat ++ "us" := by
  simp only [combined, origin, String.append_assoc]

variable {e e' : AccessEntry}

theorem Proper.isSolid_target (proper : e.Proper) : IsSolid e.target := by
  obtain ⟨path, query⟩ := proper.uri.isSolid
  unfold target Http.Uri.text
  split
  next q hq => exact (path.append (by decide)).append (query q hq)
  next => exact path

theorem isSolid_sizeText (e : AccessEntry) : IsSolid e.sizeText := by
  unfold sizeText
  split
  next n _ => exact isSolid_toString n.toNat
  next => decide

end AccessEntry

/-- The characters of a time. -/
def isTimeChar (c : Char) : Bool := c.isAlphanum || ['/', ':', '+', '-', ' '].contains c

theorem isTimeChar_of_isDigit {c : Char} (h : c.isDigit = true) : isTimeChar c = true := by
  rw [isTimeChar, Char.isAlphanum, h, Bool.or_true, Bool.true_or]

theorem isTimeChar_of_mem_padded {width n : Nat} : ∀ c ∈ padded width n, isTimeChar c = true :=
  fun c hc => isTimeChar_of_isDigit (isDigit_of_mem_padded c hc)

theorem isTimeChar_of_mem_month (month : Nat) : ∀ c ∈ shortMonthName month, isTimeChar c = true := by
  have each : ∀ name ∈ monthNames, MadeOf isTimeChar name := by decide
  unfold shortMonthName
  cases h : monthNames[month - 1]? with
  | none => exact nofun
  | some name => exact each name (List.mem_of_getElem? h)

theorem isTimeChar_of_mem_year (year : Int) : ∀ c ∈ yearText year, isTimeChar c = true := by
  unfold yearText
  split
  next => exact List.forall_mem_cons.2 ⟨by decide, isTimeChar_of_mem_padded⟩
  split
  next => exact isTimeChar_of_mem_padded
  next =>
    exact List.forall_mem_cons.2
      ⟨by decide, fun c hc => isTimeChar_of_isDigit (isDigit_of_mem_toDigits c hc)⟩

theorem madeOf_timeText (time : Int) : MadeOf isTimeChar (timeText time) := by
  refine madeOf_ofList ?_
  have slash : isTimeChar '/' = true := by decide
  have colon : isTimeChar ':' = true := by decide
  have zone : MadeOf isTimeChar " +0000" := by decide
  simp only [Moment.clockText, List.forall_mem_append, List.forall_mem_cons, List.append_assoc,
    List.cons_append]
  exact ⟨isTimeChar_of_mem_padded, slash, isTimeChar_of_mem_month _, slash, isTimeChar_of_mem_year _,
    colon, isTimeChar_of_mem_padded, colon, isTimeChar_of_mem_padded, colon, isTimeChar_of_mem_padded,
    zone⟩

theorem isLine_timeText (time : Int) : IsLine (timeText time) :=
  (madeOf_timeText time).mono fun _ hc => isLineChar_of_le (le_toNat_of_kind (by decide) hc)

namespace AccessEntry

variable {e e' : AccessEntry}

theorem Proper.isSolid_version (proper : e.Proper) : IsSolid e.version ∧ '"' ∉ e.version.toList := by
  obtain ⟨version, same⟩ := proper.version
  rw [same]
  cases version <;> decide

theorem Proper.isLine_common (proper : e.Proper) : IsLine e.common := by
  rw [common_eq]
  simp only [madeOf_append, and_assoc]
  exact ⟨proper.remote.isLine, by decide, isLine_timeText e.time, by decide, proper.method.isLine,
    by decide, proper.isSolid_target.isLine, by decide, proper.isSolid_version.1.isLine, by decide,
    (isSolid_toString e.status).isLine, by decide, (isSolid_sizeText e).isLine⟩

theorem isLine_getD {text : Option String} (h : ∀ s, text = some s → IsLine s) :
    IsLine (text.getD "-") := by
  cases text with
  | none => decide
  | some s => exact h s rfl

/-- An entry is written in one line, whichever the format. -/
theorem Proper.isLine_line (proper : e.Proper) (format : Config.AccessFormat) :
    IsLine (e.line format) := by
  cases format with
  | common => exact proper.isLine_common
  | combined =>
    show IsLine e.combined
    simp only [combined, madeOf_append, and_assoc]
    exact ⟨proper.isLine_common, by decide, isLine_getD proper.referer, by decide,
      isLine_getD proper.userAgent, by decide, (isSolid_toString _).isLine, by decide⟩

end AccessEntry

/-- The entry of a request that was let through, from a client with an address. -/
theorem proper_accessEntry {F : Type} {method target : String} {fields : List (String × String)}
    {request : Http.Request} (h : Http.Request.build? method target fields = some request)
    (version : Version) (response : Http.Response F) (client : Server.Address) (time : Int)
    (microseconds : UInt64) :
    (accessEntry request version response client.host time microseconds).Proper where
  remote := client.isSolid_host
  method := Http.isSolid_of_isToken (Http.of_build? h).1
  uri := (Http.of_build? h).2
  version := ⟨version, rfl⟩
  referer _ := Http.isLine_of_text?
  userAgent _ := Http.isLine_of_text?

/-! ## §3 The common line -/

theorem toString_nat_inj {m n : Nat} (h : toString m = toString n) : m = n := by
  have digits : Nat.toDigits 10 m = Nat.toDigits 10 n := String.ofList_injective h
  calc m = natOfDigits (Nat.toDigits 10 m) := (natOfDigits_toDigits m).symm
    _ = natOfDigits (Nat.toDigits 10 n) := by rw [digits]
    _ = n := natOfDigits_toDigits n

namespace AccessEntry

/-- Two entries tell the same of an exchange, where it came from and how long it took left aside. -/
structure SameExchange (e e' : AccessEntry) : Prop where
  remote : e.remote = e'.remote
  time : timeText e.time = timeText e'.time
  method : e.method = e'.method
  path : e.path = e'.path
  query : e.query = e'.query
  version : e.version = e'.version
  status : e.status = e'.status
  bodyBytes : e.bodyBytes = e'.bodyBytes

variable {e e' : AccessEntry}

/-- What is written of a size is read as that size. -/
theorem declaredLength?_sizeText (e : AccessEntry) : declaredLength? e.sizeText = e.bodyBytes := by
  unfold sizeText
  cases e.bodyBytes with
  | none => decide
  | some n =>
    have digits : ∀ c ∈ Nat.toDigits 10 n.toNat, c.isDigit = true := isDigit_of_mem_toDigits
    have present : (Nat.toDigits 10 n.toNat).isEmpty = false :=
      Bool.eq_false_iff.2 (mt List.isEmpty_iff.1 Nat.toDigits_ne_nil)
    have chars : (toString n.toNat).toList = Nat.toDigits 10 n.toNat := String.toList_ofList
    show declaredLength? (toString n.toNat) = some n
    unfold declaredLength?
    rw [chars]
    split
    next ds unsigned =>
      -- digits do not begin with a sign
      exact absurd (digits '+' (unsigned ▸ List.mem_cons_self)) (by decide)
    next =>
      dsimp only
      rw [present, List.all_eq_true.2 digits, natOfDigits_toDigits, decide_eq_true n.toNat_lt]
      exact congrArg some UInt64.ofNat_toNat

theorem toList_common (e : AccessEntry) (rest : List Char) : e.common.toList ++ ' ' :: rest =
    e.remote.toList ++ ' ' :: ("- - [".toList ++ ((timeText e.time).toList ++ ']' :: (" \"".toList ++
      (e.method.toList ++ ' ' :: (e.target.toList ++ ' ' :: ("HTTP/".toList ++
        (e.version.toList ++ '"' :: ' ' :: ((toString e.status).toList ++
          ' ' :: (e.sizeText.toList ++ ' ' :: rest))))))))) := by
  rw [common_eq]
  simp [String.toList_append]

/-- What stands in front of a blank as a common line can be told from what follows, and tells of the
    exchange.  The texts are taken off one by one, each with the character behind it. -/
theorem common_cancel (proper : e.Proper) (proper' : e'.Proper) {rest rest' : List Char}
    (h : e.common.toList ++ ' ' :: rest = e'.common.toList ++ ' ' :: rest') :
    SameExchange e e' ∧ rest = rest' := by
  have bracket (time : Int) : ']' ∉ (timeText time).toList := by
    intro mem
    exact absurd (madeOf_timeText time _ mem) (by decide)
  have blank : isSolidChar ' ' = false := by decide
  rw [toList_common, toList_common] at h
  obtain ⟨remote, h⟩ :=
    append_cons_inj (proper.remote.not_mem blank) (proper'.remote.not_mem blank) h
  obtain ⟨time, h⟩ :=
    append_cons_inj (bracket e.time) (bracket e'.time) (List.append_cancel_left h)
  obtain ⟨method, h⟩ := append_cons_inj (proper.method.not_mem blank) (proper'.method.not_mem blank)
    (List.append_cancel_left h)
  obtain ⟨target, h⟩ :=
    append_cons_inj (proper.isSolid_target.not_mem blank) (proper'.isSolid_target.not_mem blank) h
  obtain ⟨version, h⟩ := append_cons_inj proper.isSolid_version.2 proper'.isSolid_version.2
    (List.append_cancel_left h)
  obtain ⟨status, h⟩ := append_cons_inj ((isSolid_toString e.status).not_mem blank)
    ((isSolid_toString e'.status).not_mem blank) (List.cons.inj h).2
  obtain ⟨size, h⟩ :=
    append_cons_inj ((isSolid_sizeText e).not_mem blank) ((isSolid_sizeText e').not_mem blank) h
  have uri := Http.Uri.text_inj proper.uri proper'.uri (String.toList_inj.1 target)
  refine ⟨?_, h⟩
  exact {
    remote := String.toList_inj.1 remote
    time := String.toList_inj.1 time
    method := String.toList_inj.1 method
    path := congrArg Http.Uri.path uri
    query := congrArg Http.Uri.query uri
    version := String.toList_inj.1 version
    status := toString_nat_inj (String.toList_inj.1 status)
    bodyBytes := by
      rw [← declaredLength?_sizeText, String.toList_inj.1 size, declaredLength?_sizeText] }

/-! ## §4 The combined line -/

theorem toList_combined (e : AccessEntry) : e.combined.toList =
    e.common.toList ++ ' ' :: '"' :: (e.origin.toList ++ '"' ::
      (' ' :: ((toString e.microseconds.toNat).toList ++ "us".toList))) := by
  rw [combined_eq]
  simp [String.toList_append]

theorem SameExchange.common_eq_common (exchange : SameExchange e e') : e.common = e'.common := by
  have target : e.target = e'.target := by
    rw [AccessEntry.target, AccessEntry.target, exchange.path, exchange.query]
  have size : e.sizeText = e'.sizeText := by rw [sizeText, sizeText, exchange.bodyBytes]
  rw [common_eq, common_eq, exchange.remote, exchange.time, exchange.method, target, exchange.version,
    exchange.status, size]

/-- The combined line tells of the exchange, of its duration, and what stands between the outer quotes;
    nothing else shows in it. -/
theorem combined_eq_iff (proper : e.Proper) (proper' : e'.Proper) :
    e.combined = e'.combined ↔
      SameExchange e e' ∧ e.microseconds = e'.microseconds ∧ e.origin = e'.origin := by
  constructor
  · intro h
    have chars := congrArg String.toList h
    rw [toList_combined, toList_combined] at chars
    obtain ⟨exchange, rest⟩ := common_cancel proper proper' chars
    have unquoted (n : Nat) : '"' ∉ ' ' :: ((toString n).toList ++ "us".toList) := by
      have digits : '"' ∉ (toString n).toList := by
        rw [Nat.toString_eq_repr, Nat.toList_repr]
        exact not_mem_toDigits (by decide) n
      rw [List.mem_cons, List.mem_append, not_or, not_or]
      exact ⟨by decide, digits, by decide⟩
    obtain ⟨origin, duration⟩ := append_cons_inj_right (unquoted _) (unquoted _) (List.cons.inj rest).2
    have digits := List.append_cancel_right (List.cons.inj duration).2
    exact ⟨exchange, UInt64.toNat_inj.1 (toString_nat_inj (String.toList_inj.1 digits)),
      String.toList_inj.1 origin⟩
  · rintro ⟨exchange, duration, origin⟩
    rw [combined_eq, combined_eq, exchange.common_eq_common, duration, origin]

/-- The quotes between Referer and User-Agent cannot be mistaken for quotes in them: the Referers of both
    entries have none, or the User-Agents of both, or one entry has none at all. -/
inductive Unmistakable (e e' : AccessEntry) : Prop
  | referers (h : '"' ∉ (e.referer.getD "-").toList) (h' : '"' ∉ (e'.referer.getD "-").toList)
  | userAgents (h : '"' ∉ (e.userAgent.getD "-").toList) (h' : '"' ∉ (e'.userAgent.getD "-").toList)
  | one (referer : '"' ∉ (e.referer.getD "-").toList) (userAgent : '"' ∉ (e.userAgent.getD "-").toList)

theorem toList_origin (e : AccessEntry) : e.origin.toList =
    (e.referer.getD "-").toList ++ '"' :: ' ' :: '"' :: (e.userAgent.getD "-").toList := by
  unfold origin
  simp [String.toList_append]

/-- Texts with two quotes and a blank between can be told apart at the first quote, or at the last. -/
theorem quotes_inj {x x' y y' : List Char}
    (h : x ++ '"' :: ' ' :: '"' :: y = x' ++ '"' :: ' ' :: '"' :: y')
    (clear : ('"' ∉ x ∧ '"' ∉ x') ∨ ('"' ∉ y ∧ '"' ∉ y')) : x = x' ∧ y = y' := by
  rcases clear with ⟨hx, hx'⟩ | ⟨hy, hy'⟩
  · obtain ⟨front, back⟩ := append_cons_inj hx hx' h
    exact ⟨front, (List.cons.inj (List.cons.inj back).2).2⟩
  · have assoc (x y : List Char) : x ++ '"' :: ' ' :: '"' :: y = (x ++ ['"', ' ']) ++ '"' :: y := by
      rw [List.append_assoc]
      rfl
    rw [assoc, assoc] at h
    obtain ⟨front, back⟩ := append_cons_inj_right hy hy' h
    exact ⟨List.append_cancel_right front, back⟩

theorem origin_inj (clear : Unmistakable e e') (h : e.origin = e'.origin) :
    e.referer.getD "-" = e'.referer.getD "-" ∧ e.userAgent.getD "-" = e'.userAgent.getD "-" := by
  have chars := congrArg String.toList h
  rw [toList_origin, toList_origin] at chars
  have apart : ('"' ∉ (e.referer.getD "-").toList ∧ '"' ∉ (e'.referer.getD "-").toList) ∨
      ('"' ∉ (e.userAgent.getD "-").toList ∧ '"' ∉ (e'.userAgent.getD "-").toList) := by
    cases clear with
    | referers h h' => exact .inl ⟨h, h'⟩
    | userAgents h h' => exact .inr ⟨h, h'⟩
    | one referer userAgent =>
      -- one text has two quotes, so the other has no more
      have count := congrArg (List.count '"') chars
      simp only [List.count_append, List.count_cons, List.count_eq_zero_of_not_mem referer,
        List.count_eq_zero_of_not_mem userAgent] at count
      have none : (e'.referer.getD "-").toList.count '"' = 0 := by omega
      exact .inl ⟨referer, List.count_eq_zero.1 none⟩
  obtain ⟨referer, userAgent⟩ := quotes_inj chars apart
  exact ⟨String.toList_inj.1 referer, String.toList_inj.1 userAgent⟩

end AccessEntry

open AccessEntry (SameExchange Unmistakable)

/-- Of two entries of requests that were let through, the combined lines are the same exactly if client,
    time, method, path, query, version, status, size and duration are, and what stands between the outer
    quotes.  Referer and User-Agent are the same then where no quote can be mistaken; a missing one is
    read as a hyphen. -/
theorem combined_tells {F G : Type} {method method' target target' : String}
    {fields fields' : List (String × String)} {request request' : Http.Request}
    (admitted : Http.Request.build? method target fields = some request)
    (admitted' : Http.Request.build? method' target' fields' = some request')
    (version version' : Version) (response : Http.Response F) (response' : Http.Response G)
    (client client' : Server.Address) (time time' : Int) (taken taken' : UInt64) :
    let e := accessEntry request version response client.host time taken
    let e' := accessEntry request' version' response' client'.host time' taken'
    (e.combined = e'.combined ↔
      SameExchange e e' ∧ e.microseconds = e'.microseconds ∧ e.origin = e'.origin) ∧
    (e.combined = e'.combined → Unmistakable e e' →
      e.referer.getD "-" = e'.referer.getD "-" ∧ e.userAgent.getD "-" = e'.userAgent.getD "-") := by
  intro e e'
  have told : e.combined = e'.combined ↔ _ := AccessEntry.combined_eq_iff
    (proper_accessEntry admitted version response client time taken)
    (proper_accessEntry admitted' version' response' client' time' taken')
  exact ⟨told, fun same clear => AccessEntry.origin_inj clear (told.1 same).2.2⟩

/-- A page that a client got, as an entry tells of it. -/
def visit (request : Http.Request) : AccessEntry :=
  accessEntry request .http11 (⟨200, [], .empty⟩ : Http.Response Unit)
    (Server.Address.four [10, 0, 0, 1] 4711).host 0 5

/-- Quotes in the Referer of two clients, of which one has no User-Agent, and the other a hyphen. -/
theorem missing_agent_is_hyphen :
    ∃ request request' : Http.Request,
      Http.Request.build? "GET" "/a?b" [("referer", "say \"hi\"")] = some request ∧
      Http.Request.build? "GET" "/a?b" [("referer", "say \"hi\""), ("user-agent", "-")] = some request' ∧
      (visit request).combined = (visit request').combined ∧
      (visit request).userAgent ≠ (visit request').userAgent ∧
      (visit request).userAgent.getD "-" = (visit request').userAgent.getD "-" := by
  refine ⟨_, _, rfl, rfl, ?_⟩
  have told := combined_tells (F := Unit) (G := Unit)
    (rfl : Http.Request.build? "GET" "/a?b" [("referer", "say \"hi\"")] = some _)
    (rfl : Http.Request.build? "GET" "/a?b" [("referer", "say \"hi\""), ("user-agent", "-")] = some _)
    .http11 .http11 ⟨200, [], .empty⟩ ⟨200, [], .empty⟩ (.four [10, 0, 0, 1] 4711)
    (.four [10, 0, 0, 1] 4711) 0 0 5 5
  have differ : (none : Option String) ≠ some "-" := nofun
  refine ⟨by decide, differ, ?_⟩
  exact (told.2 (by decide) (.userAgents (by decide) (by decide))).2

/-- With quotes in them, Referer and User-Agent can be shifted without a trace. -/
theorem referer_may_be_shifted :
    ∃ request request' : Http.Request,
      Http.Request.build? "GET" "/" [("referer", "a\" \"b"), ("user-agent", "c")] = some request ∧
      Http.Request.build? "GET" "/" [("referer", "a"), ("user-agent", "b\" \"c")] = some request' ∧
      (visit request).combined = (visit request').combined ∧
      (visit request).referer ≠ (visit request').referer ∧
      (visit request).userAgent ≠ (visit request').userAgent := by
  refine ⟨_, _, rfl, rfl, ?_⟩
  decide

end Log

end StaticSite
