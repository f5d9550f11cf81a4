import Mujian.Foundations.Text

/-!
# The check of a URL before it is fetched

`validateURL` is `SSRFProtection.ValidateURL`: the scheme, the port, and then either the literal
address or the domain and the addresses that a lookup gives for it. How Go reads a URL, an address
or a network is a `Library`. `net.SplitHostPort`, which the check uses, refuses what `URL.Hostname`
and `URL.Port` accept; where it succeeds they agree (`URL.of_splitHostPort`).
-/

namespace Mujian.Downloads

/-- `net.IP`: four or sixteen bytes. -/
abbrev IP := List UInt8

section

variable (host : List Char) (ip : IP)

/-- `To4`: the four bytes of an IPv4 address, also of one written as an IPv6 address. -/
def IP.to4 : Option IP :=
  if ip.length = 4 then some ip
  else if ip.length = 16 ∧ ip.take 12 = List.replicate 10 0 ++ [0xff, 0xff] then some (ip.drop 12)
  else none

def IP.equal (ip ip' : IP) : Bool := ip.to4.getD ip = ip'.to4.getD ip'

/-- The address with some first bytes, in sixteen bytes. -/
def ipv6 (bytes : List UInt8) : IP := bytes ++ List.replicate (16 - bytes.length) 0

/-- `::1`. -/
def ipv6Loopback : IP := List.replicate 15 0 ++ [1]

/-- A test on the bytes of an IPv4 address, and another one for IPv6. -/
def IP.test (v4 v6 : List UInt8 → Bool) (ip : IP) : Bool :=
  match ip.to4 with
  | some bytes => v4 bytes
  | none => v6 ip

def IP.isUnspecified : Bool := ip.equal [0, 0, 0, 0] || ip.equal (ipv6 [])

def IP.isLoopback : IP → Bool :=
  IP.test (fun bytes => bytes.head? = some 127) fun ip => IP.equal ip ipv6Loopback

def IP.isLinkLocalUnicast : IP → Bool := IP.test (fun bytes => bytes.take 2 = [169, 254]) fun ip =>
    ip.length = 16 && ip.getD 0 0 = 0xfe && ip.getD 1 0 &&& 0xc0 = 0x80

def IP.isLinkLocalMulticast : IP → Bool :=
  IP.test (fun bytes => bytes.take 3 = [224, 0, 0]) fun ip =>
    ip.length = 16 && ip.getD 0 0 = 0xff && ip.getD 1 0 &&& 0x0f = 0x02

def IP.isInterfaceLocalMulticast : Bool :=
  ip.length = 16 && ip.getD 0 0 = 0xff && ip.getD 1 0 &&& 0x0f = 0x01

def IP.isPrivate : IP → Bool := IP.test
    (fun bytes => bytes.getD 0 0 = 10 || (bytes.getD 0 0 = 172 && bytes.getD 1 0 &&& 0xf0 = 16) ||
      bytes.take 2 = [192, 168])
    fun ip => ip.length = 16 && ip.getD 0 0 &&& 0xfe = 0xfc

structure IPNet where
  ip : IP
  mask : List UInt8

/-- `net.CIDRMask`, of a number of bytes. -/
def cidrMask (ones bytes : ℕ) : List UInt8 :=
  (List.range bytes).map fun i => UInt8.ofNat (256 - 2 ^ (8 - min 8 (ones - 8 * i)))

def IPNet.contains (network : IPNet) (ip : IP) : Bool :=
  let number := network.ip.to4.getD network.ip
  let mask := if number.length = 4 ∧ network.mask.length = 16 then network.mask.drop 12
    else network.mask
  let ip := ip.to4.getD ip
  number.length = mask.length && ip.length = number.length &&
    (number.zipWith (· &&& ·) mask = ip.zipWith (· &&& ·) mask)

def privateIPv4Nets : List IPNet :=
  [([0, 0, 0, 0], 8), ([10, 0, 0, 0], 8), ([100, 64, 0, 0], 10), ([127, 0, 0, 0], 8),
    ([169, 254, 0, 0], 16), ([172, 16, 0, 0], 12), ([192, 0, 0, 0], 24), ([192, 0, 2, 0], 24),
    ([192, 168, 0, 0], 16), ([198, 18, 0, 0], 15), ([198, 51, 100, 0], 24), ([203, 0, 113, 0], 24),
    ([224, 0, 0, 0], 4), ([240, 0, 0, 0], 4), ([255, 255, 255, 255], 32)].map
    fun net => ⟨net.1, cidrMask net.2 4⟩

def privateIPv6Nets : List IPNet :=
  [(ipv6 [], 128), (ipv6Loopback, 128), (ipv6 (List.replicate 10 0 ++ [0xff, 0xff]), 96),
    (ipv6 [0, 0x64, 0xff, 0x9b], 96), (ipv6 [1, 0], 64), (ipv6 [0x20, 1], 23),
    (ipv6 [0x20, 1, 0x0d, 0xb8], 32), (ipv6 [0xfc], 7), (ipv6 [0xfe, 0x80], 10),
    (ipv6 [0xff], 8)].map fun net => ⟨net.1, cidrMask net.2 16⟩

def isPrivateIP : Bool := ip = [] || ip.isUnspecified || ip.isLoopback || ip.isLinkLocalUnicast ||
    ip.isLinkLocalMulticast || ip.isInterfaceLocalMulticast ||
    match ip.to4 with
    | some v4 => privateIPv4Nets.any (·.contains v4)
    | none => privateIPv6Nets.any (·.contains ip) || ip.isPrivate

def cutLastColon : List Char → Option (List Char × List Char)
  | [] => none
  | c :: text =>
    match cutLastColon text with
    | some (front, port) => some (c :: front, port)
    | none => if c = ':' then some ([], text) else none

/-- `net.SplitHostPort`. -/
def splitHostPort (hostport : List Char) : Option (List Char × List Char) :=
  match cutLastColon hostport with
  | none => none
  | some (front, port) =>
    if hostport.head? = some '[' then
      -- the first closing bracket stands right before the last colon
      let host := (front.drop 1).dropLast
      if front = '[' :: host ++ [']'] ∧ ']' ∉ host ∧ '[' ∉ host ∧ '[' ∉ port ∧ ']' ∉ port then
        some (host, port)
      else none
    else if ':' ∈ front ∨ '[' ∈ hostport ∨ ']' ∈ hostport then none
    else some (front, port)

/-- `net.JoinHostPort`. -/
def joinHostPort (host port : List Char) : List Char :=
  if ':' ∈ host then '[' :: host ++ ']' :: ':' :: port else host ++ ':' :: port

def splitPort (hostPort : List Char) : List Char × List Char :=
  match cutLastColon hostPort with
  | none => (hostPort, [])
  | some (host, port) => if port.all Char.isDigit then (host, port) else (hostPort, [])

def stripBrackets : List Char :=
  if host.head? = some '[' ∧ host.getLast? = some ']' then (host.drop 1).dropLast else host

/-- What `url.Parse` demands of the port of a host: digits after the last colon, if that colon is
not in brackets. -/
def validHost : Bool :=
  (cutLastColon host).all fun parts => parts.2.contains ']' || parts.2.all Char.isDigit

structure URL where
  scheme : String
  host : List Char
  valid : validHost host = true

variable (url : URL)

def URL.hostname : List Char := stripBrackets (splitPort url.host).1

def URL.port : List Char := (splitPort url.host).2

end

variable {text front port host : List Char} {url : URL}

theorem cutLastColon_eq_none_iff : cutLastColon text = none ↔ ':' ∉ text := by
  induction text with
  | nil => simp [cutLastColon]
  | cons c text ih =>
    rw [cutLastColon, List.mem_cons, not_or, ← ih]
    cases cutLastColon text with
    | some parts => simp
    | none => simp [eq_comm]

theorem cutLastColon_append (h : ':' ∉ port) :
    cutLastColon (front ++ ':' :: port) = some (front, port) := by
  induction front with
  | nil =>
    change cutLastColon (':' :: port) = _
    rw [cutLastColon, cutLastColon_eq_none_iff.2 h]
    rfl
  | cons c front ih =>
    change cutLastColon (c :: (front ++ ':' :: port)) = _
    rw [cutLastColon, ih]

theorem cutLastColon_eq_some
    (h : cutLastColon text = some (front, port)) : text = front ++ ':' :: port ∧ ':' ∉ port := by
  induction text generalizing front with
  | nil => cases h
  | cons c text ih =>
    rw [cutLastColon] at h
    cases hcut : cutLastColon text with
    | some parts =>
      rw [hcut] at h
      obtain ⟨rfl, rfl⟩ := Prod.mk.inj (Option.some.inj h)
      obtain ⟨htext, hport⟩ := ih hcut
      exact ⟨congrArg (c :: ·) htext, hport⟩
    | none =>
      rw [hcut] at h
      by_cases hc : c = ':'
      · rw [if_pos hc] at h
        obtain ⟨rfl, rfl⟩ := Prod.mk.inj (Option.some.inj h)
        exact ⟨by rw [hc]; rfl, cutLastColon_eq_none_iff.1 hcut⟩
      · rw [if_neg hc] at h
        cases h

section

variable (hcut : cutLastColon url.host = some (front, port))
include hcut

theorem URL.digits_of_cutLastColon (h : ']' ∉ port) : port.all Char.isDigit = true := by
  have hvalid := url.valid
  rw [validHost, hcut, Option.all_some, Bool.or_eq_true, List.contains_iff_mem] at hvalid
  exact hvalid.resolve_left h

theorem URL.splitPort_eq (h : ']' ∉ port) : splitPort url.host = (front, port) := by
  rw [splitPort, hcut]
  exact if_pos (URL.digits_of_cutLastColon hcut h)

end

/-- **Where `net.SplitHostPort` succeeds, a URL has that host and that port.** -/
theorem URL.of_splitHostPort
    (h : splitHostPort url.host = some (host, port)) : url.hostname = host ∧ url.port = port := by
  unfold splitHostPort at h
  cases hcut : cutLastColon url.host with
  | none =>
    rw [hcut] at h
    cases h
  | some parts =>
    rw [hcut] at h
    dsimp only at h
    unfold URL.hostname URL.port
    split at h
    · split at h
      · next hfront =>
        obtain ⟨rfl, rfl⟩ := Prod.mk.inj (Option.some.inj h)
        rw [URL.splitPort_eq hcut hfront.2.2.2.2]
        refine ⟨if_pos ?_, rfl⟩
        rw [hfront.1]
        exact ⟨rfl, List.getLast?_concat⟩
      · cases h
    · split at h
      · cases h
      · next hplain =>
        obtain ⟨rfl, rfl⟩ := Prod.mk.inj (Option.some.inj h)
        rw [not_or, not_or] at hplain
        obtain ⟨htext, -⟩ := cutLastColon_eq_some hcut
        rw [URL.splitPort_eq hcut fun hmem => hplain.2.2 (by simp [htext, hmem])]
        refine ⟨if_neg ?_, rfl⟩
        rintro ⟨hhead, -⟩
        refine hplain.2.1 ?_
        rw [htext]
        exact List.mem_append_left _ (List.mem_of_mem_head? hhead)

theorem URL.colon_notMem_port (url : URL) : ':' ∉ url.port := by
  unfold URL.port splitPort
  split
  · exact List.not_mem_nil
  · next host port hcut =>
    split
    · exact (cutLastColon_eq_some hcut).2
    · exact List.not_mem_nil

/-- The port that `net/http` connects to is the one of the joined address. -/
theorem port_of_splitHostPort_joinHostPort {host' port' : List Char} (h : ':' ∉ port)
    (hsplit : splitHostPort (joinHostPort host port) = some (host', port')) : port' = port := by
  have hcut : ∃ front, cutLastColon (joinHostPort host port) = some (front, port) := by
    unfold joinHostPort
    split
    · have hcut := @cutLastColon_append ('[' :: host ++ [']']) port h
      exact ⟨_, by simpa using hcut⟩
    · exact ⟨host, cutLastColon_append h⟩
  obtain ⟨front, hcut⟩ := hcut
  unfold splitHostPort at hsplit
  rw [hcut] at hsplit
  dsimp only at hsplit
  split at hsplit
  · split at hsplit
    · exact (Prod.mk.inj (Option.some.inj hsplit)).2.symm
    · cases hsplit
  · split at hsplit
    · cases hsplit
    · exact (Prod.mk.inj (Option.some.inj hsplit)).2.symm

/-- What the Go library reads from texts. -/
structure Library where
  parseURL : String → Except String URL
  parseIP : List Char → Option IP
  parseCIDR : String → Option IPNet
  ipText : IP → String
  /-- The host as it is looked up. -/
  idnaASCII : List Char → List Char
  atoiError : String → String

structure SSRFProtection where
  (allowPrivateIp domainFilterMode : Bool)
  domainList : List String
  ipFilterMode : Bool
  ipList : List String
  allowedPorts : List ℤ
  applyIPFilterForDomain : Bool

structure FetchSetting where
  (enableSSRFProtection allowPrivateIp domainFilterMode ipFilterMode : Bool)
  (domainList ipList allowedPorts : List String)
  applyIPFilterForDomain : Bool

def SSRFProtection.isAllowedPort (p : SSRFProtection) (port : ℤ) : Bool :=
  p.allowedPorts.isEmpty || p.allowedPorts.contains port

def domainMatches (domain item : List Char) : Bool :=
  item ≠ [] && (domain = item ||
    ("*.".toList.isPrefixOf item &&
      (('.' :: item.drop 2).isSuffixOf domain || domain = item.drop 2)))

def isDomainListed (domain : List Char) (list : List String) : Bool := list.any fun item =>
    domainMatches (domain.map Char.toLower) ((trimSpace item).toList.map Char.toLower)

def SSRFProtection.isDomainAllowed (p : SSRFProtection) (domain : List Char) : Bool :=
  isDomainListed domain p.domainList = p.domainFilterMode

section

variable (lib : Library)

def parsePortRange (config : String) : Except String (List ℤ) :=
  if textContains config "-" then
    match (config.toList.splitOn '-').map fun part => trimSpace (String.ofList part) with
    | [first, last] =>
      match atoi first, atoi last with
      | none, _ => .error ("invalid start port in range " ++ config ++ ": " ++ lib.atoiError first)
      | _, none => .error ("invalid end port in range " ++ config ++ ": " ++ lib.atoiError last)
      | some startPort, some endPort =>
        if startPort > endPort then
          .error ("invalid port range " ++ config ++ ": start port cannot be greater than end port")
        else if startPort < 1 ∨ startPort > 65535 ∨ endPort < 1 ∨ endPort > 65535 then
          .error ("port range " ++ config ++ " contains invalid port numbers (must be 1-65535)")
        else .ok ((List.range (endPort - startPort + 1).toNat).map fun i : ℕ => startPort + i)
    | _ => .error ("invalid port range format: " ++ config)
  else
    match atoi config with
    | none => .error ("invalid port number: " ++ config)
    | some port =>
      if port < 1 ∨ port > 65535 then
        .error ("invalid port number " ++ toString port ++ " (must be 1-65535)")
      else .ok [port]

def parsePortRanges (portConfigs : List String) : Except String (List ℤ) :=
  (((portConfigs.map trimSpace).filter (· ≠ "")).mapM (parsePortRange lib)).map List.flatten

section

variable (setting : FetchSetting) (p : SSRFProtection) (ip : IP)
  (lookupIP : List Char → Except String (List IP)) (urlStr : String)

def isIPListed (list : List String) : Bool := list.any fun cidr =>
    match lib.parseCIDR cidr with
    | some network => network.contains ip
    | none => (lib.parseIP cidr.toList).any ip.equal

def SSRFProtection.isIPAccessAllowed : Bool :=
  if isPrivateIP ip && !p.allowPrivateIp then false
  else isIPListed lib ip p.ipList = p.ipFilterMode

def URL.checked (url : URL) : List Char × List Char :=
  match splitHostPort url.host with
  | some (host, port) => (host, port)
  | none => (url.hostname, (if url.scheme = "https" then "443" else "80").toList)

/-- Why an address is refused; the text says what gave it. -/
def SSRFProtection.refusal (forbidden : Bool) (ip : IP) (origin : String) : String :=
  (if forbidden then "private IP address not allowed: "
    else if p.ipFilterMode then "ip not in whitelist: "
    else "ip in blacklist: ") ++ origin ++ lib.ipText ip

/-- The check of a host, once its port is allowed. -/
def SSRFProtection.validateHost (host : List Char) : Except String Unit :=
  match lib.parseIP host with
  | some ip =>
    if p.isIPAccessAllowed lib ip then .ok () else .error (p.refusal lib (isPrivateIP ip) ip "")
  | none =>
    if p.isDomainAllowed host = false then
      .error ((if p.domainFilterMode then "domain not in whitelist: " else "domain in blacklist: ")
        ++ String.ofList host)
    else if p.applyIPFilterForDomain = false then .ok ()
    else
      match lookupIP host with
      | .error err => .error ("DNS resolution failed for " ++ String.ofList host ++ ": " ++ err)
      | .ok ips =>
        match ips.find? fun ip => !p.isIPAccessAllowed lib ip with
        | none => .ok ()
        | some ip =>
          .error (p.refusal lib (isPrivateIP ip && !p.allowPrivateIp) ip
            (String.ofList host ++ " resolves to "))

def SSRFProtection.validateURL : Except String Unit :=
  match lib.parseURL urlStr with
  | .error err => .error ("invalid URL format: " ++ err)
  | .ok url =>
    if url.scheme ≠ "http" ∧ url.scheme ≠ "https" then
      .error ("unsupported protocol: " ++ url.scheme ++ " (only http/https allowed)")
    else
      match atoi (String.ofList url.checked.2) with
      | none => .error ("invalid port: " ++ String.ofList url.checked.2)
      | some port =>
        if p.isAllowedPort port then p.validateHost lib lookupIP url.checked.1
        else .error ("port " ++ toString port ++ " is not allowed")

def FetchSetting.protection (allowedPorts : List ℤ) : SSRFProtection where
  allowPrivateIp := setting.allowPrivateIp
  domainFilterMode := setting.domainFilterMode
  domainList := setting.domainList
  ipFilterMode := setting.ipFilterMode
  ipList := setting.ipList
  allowedPorts := allowedPorts
  applyIPFilterForDomain := setting.applyIPFilterForDomain

def validateURLWithFetchSetting : Except String Unit :=
  if setting.enableSSRFProtection = false then .ok ()
  else
    match parsePortRanges lib setting.allowedPorts with
    | .error err => .error ("request reject - invalid port configuration: " ++ err)
    | .ok allowedPorts => (setting.protection allowedPorts).validateURL lib lookupIP urlStr

end

variable {lib}

variable {p : SSRFProtection} {ip : IP} {lookupIP : List Char → Except String (List IP)}

theorem SSRFProtection.not_private_of_allowed
    (hprivate : p.allowPrivateIp = false) (h : p.isIPAccessAllowed lib ip = true) :
    isPrivateIP ip = false ∧ isIPListed lib ip p.ipList = p.ipFilterMode := by
  unfold isIPAccessAllowed at h
  rw [hprivate] at h
  split at h
  · cases h
  · next hpublic => exact ⟨by simpa using hpublic, of_decide_eq_true h⟩

/-- A URL that passes the check has an allowed port and a host that passes. -/
theorem validateURLWithFetchSetting_ok {setting : FetchSetting} {urlStr : String}
    (hssrf : setting.enableSSRFProtection = true) (hurl : lib.parseURL urlStr = .ok url)
    (h : validateURLWithFetchSetting lib setting lookupIP urlStr = .ok ()) :
    ∃ allowedPorts port, parsePortRanges lib setting.allowedPorts = .ok allowedPorts ∧
      (url.scheme = "http" ∨ url.scheme = "https") ∧
      atoi (String.ofList url.checked.2) = some port ∧
      (setting.protection allowedPorts).isAllowedPort port = true ∧
      (setting.protection allowedPorts).validateHost lib lookupIP url.checked.1 = .ok () := by
  unfold validateURLWithFetchSetting at h
  rw [hssrf, if_neg (by decide)] at h
  cases hports : parsePortRanges lib setting.allowedPorts with
  | error err =>
    rw [hports] at h
    cases h
  | ok allowedPorts =>
    rw [hports] at h
    simp only [SSRFProtection.validateURL, hurl] at h
    split at h
    · cases h
    · next hscheme =>
      split at h
      · cases h
      · next port hport =>
        split at h
        · next hallowed => exact ⟨allowedPorts, port, rfl, by tauto, hport, hallowed, h⟩
        · cases h

end

end Mujian.Downloads
