import PgDoorman.Server.Parameters

/-!
# pg_hba rules

`src/auth/hba.rs` reads a `pg_hba.conf` text into rules: each line is cut at `#`, trimmed and
split into tokens, with double quotes keeping spaces together; a line whose first token is a
connection type becomes a rule. A host rule's fourth token is its address, read with
`IpNet::from_str`; a token that is no CIDR (a host name, `samehost`, a bare address, `all`) is
read as no address. `check_hba` then decides a connection by the first rule that applies to it
and makes a decision, a rule with no address applying to every peer.

The addresses and networks are those of `std::net` and of the `ipnet` crate; the model takes
them as an `IpNets`, which carries the one law of `IpNet::from_str` the proofs use: a CIDR has a
`/` before its prefix length.

## Main definitions

* `lines`, `stripComments`, `trim`, `shellLikeSplit`: the text as `from_content` cuts it
* `parseLine`, `PgHba.fromContent`: the rules of a text
* `HbaRule.verdict`, `PgHba.checkHba`: the decision on a connection
* `checkHbaWithGeneral`, `evalHbaForPoolPassword`: the decision as the client's startup uses it

## Main results

* `checkHba_admits`: a TCP client is trusted or allowed only by a host rule whose database, user,
  method and connection security match, and whose address token either is no CIDR or contains
  the peer
* `hba_hostname_trusts_every_peer`: a rule with the host name `localhost` trusts every TCP peer
-/

namespace PgDoorman.Auth

open Server

/-- What the rules take of `std::net::IpAddr` and of `ipnet::IpNet`. -/
structure IpNets (Ip Net : Type) where
  /-- `IpNet::from_str`. -/
  parse : String → Option Net
  /-- `IpNet::contains`. -/
  contains : Net → Ip → Bool
  /-- `Ipv4Addr::LOCALHOST`. -/
  localhost : Ip
  /-- `IpNet::from_str` reads an address, a `/` and a prefix length. -/
  slash_of_parse : ∀ t n, parse t = some n → '/' ∈ t.toList

variable {Ip Net : Type}

/-! ## Rules -/

/-- `AuthMethod`. -/
inductive AuthMethod where
  | trust
  | md5
  | scramSha256
  | reject
  | other (name : String)
  deriving Repr, DecidableEq

/-- `AuthMethod::from_token`. -/
def AuthMethod.fromToken (tok : String) : AuthMethod :=
  match toAsciiLowercase tok with
  | "trust" => .trust
  | "md5" => .md5
  | "scram-sha-256" | "scram_sha_256" | "scramsha256" => .scramSha256
  | "reject" => .reject
  | lowered => .other lowered

/-- `NameMatcher`: a database or user field, with the keyword `all`. -/
inductive NameMatcher where
  | all
  | name (n : String)
  deriving Repr, DecidableEq

/-- `NameMatcher::from_token`. -/
def NameMatcher.fromToken (tok : String) : NameMatcher :=
  if eqIgnoreAsciiCase tok "all" then .all else .name tok

/-- `NameMatcher::matches`. -/
def NameMatcher.matches : NameMatcher → String → Bool
  | .all, _ => true
  | .name n, value => n == value

/-- `HostType`. -/
inductive HostType where
  | local
  | host
  | hostSSL
  | hostNoSSL
  deriving Repr, DecidableEq

/-- `HostType::from_token`. -/
def HostType.fromToken (tok : String) : Option HostType :=
  match toAsciiLowercase tok with
  | "local" => some .local
  | "host" => some .host
  | "hostssl" => some .hostSSL
  | "hostnossl" => some .hostNoSSL
  | _ => none

/-- `HostType::matches_ssl`. -/
def HostType.matchesSsl : HostType → Bool → Bool
  | .local, _ => true
  | .host, _ => true
  | .hostSSL, ssl => ssl
  | .hostNoSSL, ssl => !ssl

/-- `CheckResult`. -/
inductive CheckResult where
  | notMatched
  | deny
  | allow
  | trust
  deriving Repr, DecidableEq

/-- `HbaRule`. -/
structure HbaRule (Net : Type) where
  hostType : HostType
  database : NameMatcher
  user : NameMatcher
  address : Option Net
  method : AuthMethod

/-- `PgHba`: the rules, in order. -/
structure PgHba (Net : Type) where
  rules : List (HbaRule Net)

/-! ## Reading the text -/

/-- `char::is_whitespace`: the Unicode `White_Space` property. -/
def isWhitespace (c : Char) : Bool :=
  let n := c.toNat
  (0x09 ≤ n && n ≤ 0x0D) || n == 0x20 || n == 0x85 || n == 0xA0 || n == 0x1680 ||
    (0x2000 ≤ n && n ≤ 0x200A) || n == 0x2028 || n == 0x2029 || n == 0x202F || n == 0x205F ||
    n == 0x3000

/-- A line without its `\n` loses a `\r` before it too. -/
def stripCr (line : List Char) : List Char :=
  if line.getLast? = some '\r' then line.dropLast else line

/-- The loop of `str::lines` from the line read so far. -/
def linesFrom : List Char → List Char → List (List Char)
  | [], cur => if cur.isEmpty then [] else [cur]
  | c :: cs, cur => if c = '\n' then stripCr cur :: linesFrom cs [] else linesFrom cs (cur ++ [c])

/-- `str::lines`: the text cut after each `\n`, each piece without its line ending; a last piece
with no `\n` is a line when it is not empty. -/
def lines (content : String) : List (List Char) :=
  linesFrom content.toList []

/-- `strip_comments`: what stands before the first `#`. -/
def stripComments (line : List Char) : List Char :=
  line.takeWhile (· ≠ '#')

/-- `str::trim`. -/
def trim (line : List Char) : List Char :=
  ((line.dropWhile isWhitespace).reverse.dropWhile isWhitespace).reverse

/-- The loop of `shell_like_split` from the token read so far and whether a quote is open. -/
def shellLikeSplitFrom : List Char → List Char → Bool → List String
  | [], cur, _ => if cur.isEmpty then [] else [String.ofList cur]
  | c :: cs, cur, inQuotes =>
    if c = '"' then shellLikeSplitFrom cs cur !inQuotes
    else if isWhitespace c && !inQuotes then
      if cur.isEmpty then shellLikeSplitFrom cs [] inQuotes
      else String.ofList cur :: shellLikeSplitFrom cs [] inQuotes
    else shellLikeSplitFrom cs (cur ++ [c]) inQuotes

/-- `shell_like_split`: tokens between runs of whitespace, a double quote opening or closing a
stretch where whitespace is kept. -/
def shellLikeSplit (line : List Char) : List String :=
  shellLikeSplitFrom line [] false

/-- The tokens of a line of the text. -/
def lineTokens (rawLine : List Char) : List String :=
  shellLikeSplit (trim (stripComments rawLine))

example : lineTokens "hostssl \"my db\" all 10.0.0.0/8 md5 # office".toList =
    ["hostssl", "my db", "all", "10.0.0.0/8", "md5"] := by
  decide

/-- One pass of the loop of `from_content`: the rule a line adds, or `none` where the loop goes
on to the next line. A local rule has no address field; a host rule's fourth token is read by
`parse_address`, that is `IpNet::from_str(token).ok()`. -/
def parseLine (nets : IpNets Ip Net) (rawLine : List Char) : Option (HbaRule Net) :=
  let line := trim (stripComments rawLine)
  if line.isEmpty then none else
  let tokens := shellLikeSplit line
  match tokens with
  | [] => none
  | t0 :: _ =>
    match HostType.fromToken t0 with
    | none => none
    | some ht =>
      if tokens.length < 3 then none else
      let database := NameMatcher.fromToken (tokens.getD 1 "")
      let user := NameMatcher.fromToken (tokens.getD 2 "")
      let fields : Option (Nat × Option Net) := match ht with
        | .local => if tokens.length < 4 then none else some (3, none)
        | _ => if tokens.length < 5 then none else some (4, nets.parse (tokens.getD 3 ""))
      fields.map fun (methodIdx, addressOpt) =>
        ⟨ht, database, user, addressOpt, AuthMethod.fromToken (tokens.getD methodIdx "")⟩

/-- `PgHba::from_content`. -/
def PgHba.fromContent (nets : IpNets Ip Net) (content : String) : PgHba Net :=
  ⟨(lines content).filterMap (parseLine nets)⟩

/-! ## Deciding a connection -/

/-- `ClientTransport`: a TCP peer's address (`peer.ip()`, all the rules read of the peer) and
whether TLS is on, or a Unix socket. -/
inductive ClientTransport (Ip : Type) where
  | tcp (peer : Ip) (ssl : Bool)
  | unix

/-- `ClientTransport::is_tls`. -/
def ClientTransport.isTls : ClientTransport Ip → Bool
  | .tcp _ ssl => ssl
  | .unix => false

/-- `ClientTransport::is_unix`. -/
def ClientTransport.isUnix : ClientTransport Ip → Bool
  | .tcp _ _ => false
  | .unix => true

/-- `ClientTransport::hba_ip`: the loopback address stands for a Unix client. -/
def ClientTransport.hbaIp (localhost : Ip) : ClientTransport Ip → Ip
  | .tcp peer _ => peer
  | .unix => localhost

/-- The method `check_hba` looks for. -/
def wantMethod (typeAuth : String) : AuthMethod :=
  match toAsciiLowercase typeAuth with
  | "md5" => .md5
  | "scram-sha-256" | "scram_sha_256" | "scramsha256" => .scramSha256
  | _ => .other typeAuth

/-- Whether a rule's connection type, security and address admit the connection. -/
def HbaRule.appliesTo (nets : IpNets Ip Net) (rule : HbaRule Net)
    (transport : ClientTransport Ip) : Bool :=
  match rule.hostType with
  | .local => transport.isUnix
  | _ =>
    !transport.isUnix && rule.hostType.matchesSsl transport.isTls &&
      match rule.address with
      | some net => nets.contains net (transport.hbaIp nets.localhost)
      | none => true

/-- The decision of a rule that applies and whose names match, by its method: `trust` first, then
the method looked for, then `reject`; another method is no decision. -/
def methodVerdict (method want : AuthMethod) : Option CheckResult :=
  match method with
  | .trust => some .trust
  | m => if m = want then some .allow else if m = .reject then some .deny else none

/-- One pass of the loop of `check_hba`: the decision a rule makes, or `none` where the loop goes
on to the next rule. -/
def HbaRule.verdict (nets : IpNets Ip Net) (rule : HbaRule Net) (transport : ClientTransport Ip)
    (want : AuthMethod) (username database : String) : Option CheckResult :=
  if !rule.appliesTo nets transport then none
  else if !rule.database.matches database || !rule.user.matches username then none
  else methodVerdict rule.method want

/-- `PgHba::check_hba`: the first decision of a rule, or `NotMatched`. -/
def PgHba.checkHba (nets : IpNets Ip Net) (hba : PgHba Net) (transport : ClientTransport Ip)
    (typeAuth username database : String) : CheckResult :=
  (hba.rules.findSome? fun rule =>
    rule.verdict nets transport (wantMethod typeAuth) username database).getD .notMatched

/-- The fields of `General` the check reads: the `pg_hba` rules, and the legacy list of networks
`hba`. -/
structure General (Net : Type) where
  pgHba : Option (PgHba Net)
  hba : List Net

/-- `check_hba_with_general`: the `pg_hba` rules when there are any; otherwise the legacy list,
which lets in every Unix client, and every client when it is empty. -/
def checkHbaWithGeneral (nets : IpNets Ip Net) (general : General Net)
    (transport : ClientTransport Ip) (typeAuth username database : String) : CheckResult :=
  match general.pgHba with
  | some pg => pg.checkHba nets transport typeAuth username database
  | none =>
    if transport.isUnix then .allow
    else if general.hba.isEmpty then .allow
    else if general.hba.any (fun net => nets.contains net (transport.hbaIp nets.localhost)) then
      .allow
    else .notMatched

/-- The fields of `ClientIdentifier` the decision reads. -/
structure ClientIdentifier where
  isTalos : Bool
  hbaScram : CheckResult
  hbaMd5 : CheckResult

/-- The client identifier of a startup: the checks for `md5` and for `scram-sha-256`. -/
def startupIdentifier (nets : IpNets Ip Net) (general : General Net)
    (transport : ClientTransport Ip) (isTalos : Bool) (username poolName : String) :
    ClientIdentifier :=
  ⟨isTalos, checkHbaWithGeneral nets general transport "scram-sha-256" username poolName,
    checkHbaWithGeneral nets general transport "md5" username poolName⟩

/-- `SCRAM_SHA_256`. -/
def scramSha256Prefix : String :=
  "SCRAM-SHA-256"

/-- `MD5_PASSWORD_PREFIX`. -/
def md5PasswordPrefix : String :=
  "md5"

/-- `str::starts_with`. -/
def startsWith (s pre : String) : Bool :=
  pre.toList.isPrefixOf s.toList

/-- `eval_hba_for_pool_password`: the decision for a client of a pool, by the kind of the pool's
password. `Trust` lets the client in without a password. -/
def evalHbaForPoolPassword (poolPassword : String) (ci : ClientIdentifier) : CheckResult :=
  if ci.isTalos then .allow
  else if poolPassword.isEmpty && (ci.hbaMd5 = .trust || ci.hbaScram = .trust) then .trust
  else if startsWith poolPassword scramSha256Prefix then
    if ci.hbaScram = .trust || (ci.hbaScram = .notMatched && ci.hbaMd5 = .trust) then .trust
    else if ci.hbaScram = .deny ||
        (ci.hbaScram = .notMatched && (ci.hbaMd5 = .deny || ci.hbaMd5 = .notMatched)) then .deny
    else .allow
  else if startsWith poolPassword md5PasswordPrefix then
    if ci.hbaMd5 = .trust then .trust
    else if ci.hbaMd5 = .notMatched || ci.hbaMd5 = .deny then .deny
    else .allow
  else .allow

/-! ## The rules read from a text -/

section Parsing

variable {nets : IpNets Ip Net}

theorem shellLikeSplit_nil : shellLikeSplit [] = [] :=
  rfl

/-- The rule a line with a connection type other than `local` and five tokens or more adds. -/
theorem parseLine_of_lineTokens {rawLine : List Char} {t0 t1 t2 t3 t4 : String}
    {rest : List String} (htokens : lineTokens rawLine = t0 :: t1 :: t2 :: t3 :: t4 :: rest)
    {ht : HostType} (hht : HostType.fromToken t0 = some ht) (hlocal : ht ≠ .local) :
    parseLine nets rawLine = some ⟨ht, NameMatcher.fromToken t1, NameMatcher.fromToken t2,
      nets.parse t3, AuthMethod.fromToken t4⟩ := by
  unfold lineTokens at htokens
  -- a line with tokens is not empty
  have hline : (trim (stripComments rawLine)).isEmpty = false := by
    cases hl : trim (stripComments rawLine) with
    | nil => rw [hl, shellLikeSplit_nil] at htokens; cases htokens
    | cons _ _ => rfl
  unfold parseLine
  dsimp only
  rw [if_neg (by simp [hline]), htokens]
  dsimp only
  rw [hht]
  dsimp only
  cases ht with
  | «local» => exact absurd rfl hlocal
  | host | hostSSL | hostNoSSL => simp

/-- A line read as a rule other than a local one has five tokens or more, and the rule is made
of them. -/
theorem parseLine_eq_some {rawLine : List Char} {rule : HbaRule Net}
    (h : parseLine nets rawLine = some rule) (hlocal : rule.hostType ≠ .local) :
    ∃ t0 t1 t2 t3 t4 rest, lineTokens rawLine = t0 :: t1 :: t2 :: t3 :: t4 :: rest ∧
      HostType.fromToken t0 = some rule.hostType ∧
      rule = ⟨rule.hostType, NameMatcher.fromToken t1, NameMatcher.fromToken t2, nets.parse t3,
        AuthMethod.fromToken t4⟩ := by
  unfold parseLine at h
  unfold lineTokens
  dsimp only at h
  generalize shellLikeSplit (trim (stripComments rawLine)) = tokens at h ⊢
  -- the lengths the loop checks, then the connection type
  rcases tokens with _ | ⟨t0, _ | ⟨t1, _ | ⟨t2, _ | ⟨t3, _ | ⟨t4, rest⟩⟩⟩⟩⟩
  · simp at h
  all_goals
    cases hht : HostType.fromToken t0
    · simp [hht] at h
    rename_i ht
    cases ht <;> simp [hht] at h
  -- what is left is a local rule, which the statement rules out, or a host rule of five tokens
  all_goals
    obtain ⟨_, rfl⟩ := h
    first
    | exact absurd rfl hlocal
    | exact ⟨t0, t1, t2, t3, t4, rest, rfl, hht, rfl⟩

end Parsing

/-! ## What a decision rests on -/

section Deciding

variable {nets : IpNets Ip Net}

theorem appliesTo_tcp {rule : HbaRule Net} {peer : Ip} {ssl : Bool} :
    rule.appliesTo nets (.tcp peer ssl) = true ↔
      rule.hostType ≠ .local ∧ rule.hostType.matchesSsl ssl = true ∧
        ∀ net, rule.address = some net → nets.contains net peer = true := by
  obtain ⟨ht, database, user, address, method⟩ := rule
  unfold HbaRule.appliesTo
  cases ht <;> cases address <;>
    simp [ClientTransport.isUnix, ClientTransport.isTls, ClientTransport.hbaIp]

/-- A method trusts or allows only when it is `trust` or the method looked for. -/
theorem methodVerdict_admits {method want : AuthMethod} {r : CheckResult}
    (h : methodVerdict method want = some r) (hr : r = .trust ∨ r = .allow) :
    method = .trust ∨ method = want := by
  unfold methodVerdict at h
  split at h
  · exact Or.inl rfl
  · split_ifs at h with hwant hreject
    · exact Or.inr hwant
    · -- a reject denies
      cases h
      simp at hr

/-- A rule trusts or allows a TCP client only when it is a host rule for the connection's
security, its address, if it has one, contains the peer, its database and user match, and its
method is `trust` or the method looked for. -/
theorem verdict_admits {rule : HbaRule Net} {peer : Ip} {ssl : Bool} {want : AuthMethod}
    {username database : String} {r : CheckResult}
    (h : rule.verdict nets (.tcp peer ssl) want username database = some r)
    (hr : r = .trust ∨ r = .allow) :
    rule.hostType ≠ .local ∧ rule.hostType.matchesSsl ssl = true ∧
      (∀ net, rule.address = some net → nets.contains net peer = true) ∧
      rule.database.matches database = true ∧ rule.user.matches username = true ∧
      (rule.method = .trust ∨ rule.method = want) := by
  unfold HbaRule.verdict at h
  split_ifs at h with happlies hnames
  simp only [Bool.not_eq_true', Bool.not_eq_false, Bool.or_eq_true, not_or] at happlies hnames
  obtain ⟨hlocal, hssl, haddress⟩ := appliesTo_tcp.mp happlies
  exact ⟨hlocal, hssl, haddress, by simpa using hnames.1, by simpa using hnames.2,
    methodVerdict_admits h hr⟩

/-- A decision of `check_hba` is the decision of one of the rules. -/
theorem exists_verdict_of_checkHba {hba : PgHba Net} {transport : ClientTransport Ip}
    {typeAuth username database : String} {r : CheckResult}
    (h : hba.checkHba nets transport typeAuth username database = r) (hr : r ≠ .notMatched) :
    ∃ rule ∈ hba.rules,
      rule.verdict nets transport (wantMethod typeAuth) username database = some r := by
  unfold PgHba.checkHba at h
  cases hfind : hba.rules.findSome?
      (fun rule => rule.verdict nets transport (wantMethod typeAuth) username database) with
  | none =>
    rw [hfind] at h
    exact absurd h.symm hr
  | some r' =>
    rw [hfind] at h
    cases h
    exact List.exists_of_findSome?_eq_some hfind

/-- **What an admission by `check_hba` rests on.** A TCP client is trusted or allowed only by a
line of five tokens or more whose connection type is a host one for the connection's security,
whose database and user match, whose method is `trust` or the one looked for, and whose address
token either is read as no network or is read as a network that contains the peer. -/
theorem checkHba_admits {content : String} {peer : Ip} {ssl : Bool}
    {typeAuth username database : String} {r : CheckResult}
    (h : (PgHba.fromContent nets content).checkHba nets (.tcp peer ssl) typeAuth username database = r)
    (hr : r = .trust ∨ r = .allow) :
    ∃ line ∈ lines content, ∃ t0 t1 t2 t3 t4 rest ht,
      lineTokens line = t0 :: t1 :: t2 :: t3 :: t4 :: rest ∧ HostType.fromToken t0 = some ht ∧
        ht ≠ .local ∧ ht.matchesSsl ssl = true ∧
        (NameMatcher.fromToken t1).matches database = true ∧
        (NameMatcher.fromToken t2).matches username = true ∧
        (AuthMethod.fromToken t4 = .trust ∨ AuthMethod.fromToken t4 = wantMethod typeAuth) ∧
        (nets.parse t3 = none ∨ ∃ net, nets.parse t3 = some net ∧ nets.contains net peer = true) := by
  obtain ⟨rule, hmem, hverdict⟩ :=
    exists_verdict_of_checkHba h (by rcases hr with rfl | rfl <;> decide)
  obtain ⟨hlocal, hssl, haddress, hdatabase, huser, hmethod⟩ := verdict_admits hverdict hr
  -- the rule is read from a line, and its fields from the line's tokens
  obtain ⟨line, hline, hparse⟩ := List.mem_filterMap.mp hmem
  obtain ⟨t0, t1, t2, t3, t4, rest, htokens, hht, hrule⟩ := parseLine_eq_some hparse hlocal
  rw [hrule] at hdatabase huser hmethod haddress
  refine ⟨line, hline, t0, t1, t2, t3, t4, rest, rule.hostType, htokens, hht, hlocal, hssl,
    hdatabase, huser, hmethod, ?_⟩
  cases hnet : nets.parse t3 with
  | none => exact Or.inl rfl
  | some net => exact Or.inr ⟨net, rfl, haddress net hnet⟩

/-- IPv4 addresses as numbers, with the one network 10.0.0.0/8. -/
def tenNetwork : IpNets Nat Nat where
  parse t := if t = "10.0.0.0/8" then some 10 else none
  contains net ip := ip / 2 ^ 24 == net
  localhost := 0x7f000001
  slash_of_parse t n h := by
    by_cases ht : t = "10.0.0.0/8"
    · subst ht
      decide
    · simp [ht] at h

theorem checkHba_admits_tenNetwork :
    (PgHba.fromContent tenNetwork "hostssl all all 10.0.0.0/8 md5").checkHba tenNetwork
        (.tcp 0x0a000001 true) "md5" "app" "appdb" = .allow ∧
      ∃ line ∈ lines "hostssl all all 10.0.0.0/8 md5", ∃ t0 t1 t2 t3 t4 rest ht,
        lineTokens line = t0 :: t1 :: t2 :: t3 :: t4 :: rest ∧ HostType.fromToken t0 = some ht ∧
          ht ≠ .local ∧ ht.matchesSsl true = true ∧
          (NameMatcher.fromToken t1).matches "appdb" = true ∧
          (NameMatcher.fromToken t2).matches "app" = true ∧
          (AuthMethod.fromToken t4 = .trust ∨ AuthMethod.fromToken t4 = wantMethod "md5") ∧
          (tenNetwork.parse t3 = none ∨
            ∃ net, tenNetwork.parse t3 = some net ∧ tenNetwork.contains net 0x0a000001 = true) := by
  have h : (PgHba.fromContent tenNetwork "hostssl all all 10.0.0.0/8 md5").checkHba tenNetwork
      (.tcp 0x0a000001 true) "md5" "app" "appdb" = .allow := by
    decide
  exact ⟨h, checkHba_admits h (.inr rfl)⟩

end Deciding

/-! ## A host name in the address field -/

section Hostname

variable (nets : IpNets Ip Net)

/-- `IpNet::from_str` reads no network from `localhost`, which has no `/`. -/
theorem parse_localhost : nets.parse "localhost" = none := by
  cases h : nets.parse "localhost" with
  | none => rfl
  | some net => exact absurd (nets.slash_of_parse _ _ h) (by decide)

/-- The text `host all all localhost trust` is read as one host rule with no address. -/
theorem fromContent_localhost :
    (PgHba.fromContent nets "host all all localhost trust").rules =
      [⟨.host, .all, .all, none, .trust⟩] := by
  have hlines : lines "host all all localhost trust" = ["host all all localhost trust".toList] := by
    decide
  have htokens : lineTokens "host all all localhost trust".toList =
      ["host", "all", "all", "localhost", "trust"] := by
    decide
  have hrule : parseLine nets "host all all localhost trust".toList =
      some ⟨.host, NameMatcher.fromToken "all", NameMatcher.fromToken "all",
        nets.parse "localhost", AuthMethod.fromToken "trust"⟩ :=
    parseLine_of_lineTokens htokens (by decide) (by decide)
  rw [PgHba.fromContent, hlines, List.filterMap_cons_some hrule, List.filterMap_nil,
    parse_localhost]
  rfl

/-- Such a rule trusts every TCP client. -/
theorem checkHba_localhost (peer : Ip) (ssl : Bool) (typeAuth username database : String) :
    (PgHba.fromContent nets "host all all localhost trust").checkHba nets (.tcp peer ssl)
      typeAuth username database = .trust := by
  unfold PgHba.checkHba
  rw [fromContent_localhost]
  cases ssl <;> rfl

/-- **A host name in the address field trusts every peer.** `localhost` is no CIDR, and the rule
`host all all localhost trust` is read with no address: it trusts every TCP client, whatever its
address and its connection's security, for every user, database and method. -/
theorem hba_hostname_trusts_every_peer (peer : Ip) (ssl : Bool)
    (typeAuth username database : String) :
    nets.parse "localhost" = none ∧
      (PgHba.fromContent nets "host all all localhost trust").checkHba nets (.tcp peer ssl)
        typeAuth username database = .trust :=
  ⟨parse_localhost nets, checkHba_localhost nets peer ssl typeAuth username database⟩

end Hostname

end PgDoorman.Auth
