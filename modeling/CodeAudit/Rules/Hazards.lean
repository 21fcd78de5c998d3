import CodeAudit.Rules.Line

/-!
Security rules on text: secrets in the source, statements and commands built from strings, unsafe
functions, and switched-off checks. Of several secrets on a line only the most specific is reported.
-/
namespace CodeAudit.Hazards

def descriptor (name title : String) (severity : Severity) (description : String) : RuleDescriptor :=
  ⟨"security/" ++ name, title, .security, severity, description⟩

def awsSecretKey := descriptor "aws-secret-key" "AWS secret access key" .critical "Hardcoded AWS secret access key"
def privateKey := descriptor "private-key" "Private key block" .critical "PEM private key committed to source"
def awsAccessKeyId := descriptor "aws-access-key-id" "AWS access key id" .critical "Hardcoded AWS access key id"
def githubToken := descriptor "github-token" "GitHub token" .critical "Hardcoded GitHub access token"
def slackToken := descriptor "slack-token" "Slack token" .high "Hardcoded Slack token"
def stripeKey := descriptor "stripe-key" "Stripe live key" .critical "Hardcoded Stripe live secret key"
def hardcodedSecret := descriptor "hardcoded-secret" "Hardcoded credential" .high
  "Password, token or API key assigned from a string literal"
def sqlInjection := descriptor "sql-injection" "SQL injection" .high
  "SQL statement built by string concatenation or interpolation"
def commandInjection := descriptor "command-injection" "Command injection" .high
  "Shell command built from dynamic input"
def xss := descriptor "xss" "Cross-site scripting" .high "Unescaped HTML written into the DOM"
def unsafeEval := descriptor "unsafe-eval" "Dynamic code execution" .high
  "eval or an equivalent executes dynamic code"
def weakCrypto := descriptor "weak-crypto" "Weak cryptography" .medium "Broken hash or cipher algorithm"
def insecureTransport := descriptor "insecure-transport" "Insecure transport" .medium
  "Plain HTTP URL to a non-local host"
def disabledVerification := descriptor "disabled-verification"
  "Disabled authentication or TLS verification" .high
  "Certificate verification, CSRF protection or authentication switched off"
def unsafeDeserialization := descriptor "unsafe-deserialization" "Unsafe deserialization" .high
  "Deserializer that can instantiate arbitrary objects"
def sensitiveLogging := descriptor "sensitive-logging" "Sensitive data in logs" .medium
  "Credential-like value passed to a logging call"

def descriptors : List RuleDescriptor :=
  [awsSecretKey, privateKey, awsAccessKeyId, githubToken, slackToken, stripeKey, hardcodedSecret,
   sqlInjection, commandInjection, xss, unsafeEval, weakCrypto, insecureTransport,
   disabledVerification, unsafeDeserialization, sensitiveLogging]

def patterns (texts : List String) : List Regex := texts.map Regex.ofValid

/-- Secrets, the most specific first. -/
def secretRules : List LineRule :=
  [{ descriptor := awsSecretKey
     patterns := patterns
       ["(?i)aws[_-]?secret[_-]?(?:access[_-]?)?key\\w*['\"]?\\s*[:=]\\s*['\"][A-Za-z0-9/+=]\x7b40\x7d['\"]"]
     onRaw := true
     message := "AWS secret access key is hardcoded"
     suggestion := "Load AWS credentials from the environment or a secrets manager" },
   { descriptor := privateKey
     patterns := patterns ["-----BEGIN (?:RSA |EC |DSA |OPENSSH |ENCRYPTED )?PRIVATE KEY-----"]
     onRaw := true
     message := "Private key material is committed to source"
     suggestion := "Remove the key, rotate it and load it from secure storage" },
   { descriptor := awsAccessKeyId
     patterns := patterns ["\\b(?:AKIA|ASIA)[0-9A-Z]\x7b16\x7d\\b"]
     onRaw := true
     message := "AWS access key id is hardcoded"
     suggestion := "Load AWS credentials from the environment or a secrets manager" },
   { descriptor := githubToken
     patterns := patterns ["\\bgh[pousr]_[A-Za-z0-9]\x7b36,\x7d\\b", "\\bgithub_pat_[A-Za-z0-9_]\x7b22,\x7d\\b"]
     onRaw := true
     message := "GitHub token is hardcoded"
     suggestion := "Revoke the token and read it from the environment" },
   { descriptor := slackToken
     patterns := patterns ["\\bxox[baprs]-[A-Za-z0-9-]\x7b10,\x7d"]
     onRaw := true
     message := "Slack token is hardcoded"
     suggestion := "Revoke the token and read it from the environment" },
   { descriptor := stripeKey
     patterns := patterns ["\\b[sr]k_live_[A-Za-z0-9]\x7b20,\x7d\\b"]
     onRaw := true
     message := "Stripe live key is hardcoded"
     suggestion := "Roll the key and read it from the environment" },
   { descriptor := hardcodedSecret
     patterns := patterns
       ["(?i)\\b[\\w.-]*(?:password|passwd|pwd|secret|api[_-]?key|apikey|access[_-]?token|auth[_-]?token|client[_-]?secret|private[_-]?key)[\\w-]*['\"]?\\s*[:=]\\s*['\"][^'\"\\s]\x7b8,\x7d['\"]"]
     exempt := some (Regex.ofValid
       "(?i)[:=]\\s*['\"](?:\\$\\\x7b|<|\\\x7b\\\x7b|your[_-]|change[_-]?me|example|placeholder|dummy|x\x7b4,\x7d|\\*\x7b4,\x7d)")
     onRaw := true
     message := "Credential is assigned from a string literal"
     suggestion := "Read credentials from configuration or a secrets manager" }]

def sqlVerbs : String := "(?:select\\s.+\\sfrom|insert\\s+into|update\\s+\\w+\\s+set|delete\\s+from)"

def lineRules : List LineRule :=
  [{ descriptor := sqlInjection
     patterns := patterns
       ["(?i)['\"\x60][^'\"\x60]*\\b" ++ sqlVerbs ++ "\\b[^'\"\x60]*['\"\x60]\\s*\\+\\s*\\w",
        "(?i)\x60[^\x60]*\\b" ++ sqlVerbs ++ "\\b[^\x60]*\\$\\\x7b",
        "(?i)\\bf['\"][^'\"]*\\b" ++ sqlVerbs ++ "\\b[^'\"]*\\\x7b",
        "(?i)['\"][^'\"]*\\b" ++ sqlVerbs ++ "\\b[^'\"]*['\"]\\s*(?:%\\s*[\\w(]|\\.format\\s*\\()",
        "(?i)\\bfmt\\.Sprintf\\s*\\(\\s*\"[^\"]*\\b" ++ sqlVerbs ++ "\\b"]
     onRaw := true
     message := "SQL query is built from dynamic strings"
     suggestion := "Use parameterized queries or prepared statements" },
   { descriptor := commandInjection
     patterns := patterns
       ["\\b(?:exec|execSync)\\s*\\(\\s*(?:\x60[^\x60]*\\$\\\x7b|['\"][^'\"]*['\"]\\s*\\+)",
        "\\bos\\.(?:system|popen)\\s*\\(\\s*(?:f['\"]|[A-Za-z_]|['\"][^'\"]*['\"]\\s*(?:\\+|%|\\.format))",
        "\\bsubprocess\\.\\w+\\s*\\(.*shell\\s*=\\s*True",
        "\\bRuntime\\.getRuntime\\(\\)\\.exec\\s*\\(\\s*(?:[A-Za-z_]|\"[^\"]*\"\\s*\\+)",
        "\\bexec\\.Command\\s*\\(\\s*\"(?:sh|bash|cmd)\"\\s*,\\s*\"(?:-c|/c)\""]
     onRaw := true
     message := "Shell command is built from dynamic input"
     suggestion := "Pass arguments as a list and avoid invoking a shell" },
   { descriptor := xss
     patterns := patterns
       ["\\.(?:innerHTML|outerHTML)\\s*\\+?=", "\\bdangerouslySetInnerHTML\\b",
        "\\bdocument\\.write(?:ln)?\\s*\\(", "\\.insertAdjacentHTML\\s*\\(", "\\bmark_safe\\s*\\("]
     message := "HTML is written without escaping"
     suggestion := "Use textContent or a sanitizer before inserting HTML" },
   { descriptor := unsafeEval
     patterns := patterns
       ["(?:^|[^\\w.])eval\\s*\\(", "\\bnew\\s+Function\\s*\\(", "\\bset(?:Timeout|Interval)\\s*\\(\\s*['\"\x60]"]
     message := "Dynamic code is evaluated at runtime"
     suggestion := "Replace eval with explicit parsing or dispatch" },
   { descriptor := unsafeEval
     patterns := patterns ["(?:^|[^\\w.])exec\\s*\\("]
     languages := [.python]
     message := "Dynamic code is executed with exec"
     suggestion := "Replace exec with explicit dispatch" },
   { descriptor := weakCrypto
     patterns := patterns
       ["(?i)\\bcreateHash\\s*\\(\\s*['\"](?:md5|sha1)['\"]", "(?i)\\bhashlib\\.(?:md5|sha1)\\b",
        "(?i)MessageDigest\\.getInstance\\s*\\(\\s*\"(?:md5|sha-?1)\"",
        "(?i)Cipher\\.getInstance\\s*\\(\\s*\"(?:des|desede|rc4|aes/ecb)",
        "\"crypto/(?:md5|sha1|des|rc4)\"", "\\bcreateCipher\\s*\\("]
     onRaw := true
     message := "Weak or broken cryptographic algorithm"
     suggestion := "Use SHA-256 or stronger hashes and authenticated ciphers such as AES-GCM" },
   { descriptor := insecureTransport
     patterns := patterns ["['\"\x60]http://[^'\"\x60\\s]+"]
     exempt := some (Regex.ofValid
       "http://(?:localhost|127\\.0\\.0\\.1|0\\.0\\.0\\.0|\\[::1\\])|www\\.w3\\.org|xmlns|schemas\\.")
     onRaw := true
     message := "Plain HTTP URL; traffic is unencrypted"
     suggestion := "Use https://" },
   { descriptor := disabledVerification
     patterns := patterns
       ["\\brejectUnauthorized\\s*:\\s*false\\b", "\\bverify\\s*=\\s*False\\b",
        "\\bInsecureSkipVerify\\s*:\\s*true\\b", "\\bNODE_TLS_REJECT_UNAUTHORIZED\\s*=\\s*['\"]?0",
        "@csrf_exempt\\b", "(?i)\\bcsrf\\s*\\(\\s*\\)\\s*\\.disable\\s*\\(",
        "(?i)\\b(?:auth|authentication|authorization)(?:_?enabled|_?required)?\\s*[:=]\\s*(?:false|False)\\b"]
     onRaw := true
     message := "Security verification is disabled"
     suggestion := "Keep certificate verification and authentication enabled" },
   { descriptor := unsafeDeserialization
     patterns := patterns
       ["\\b(?:c?[Pp]ickle|marshal|dill)\\.loads?\\s*\\(", "\\bnew\\s+ObjectInputStream\\s*\\(",
        "\\bunserialize\\s*\\(", "\\bBinaryFormatter\\b", "\\bjsonpickle\\.decode\\s*\\("]
     message := "Untrusted data may be deserialized into arbitrary objects"
     suggestion := "Deserialize into plain data formats such as JSON" },
   { descriptor := unsafeDeserialization
     patterns := patterns ["\\byaml\\.load\\s*\\("]
     exempt := some (Regex.ofValid "SafeLoader|safe_load")
     message := "yaml.load without a safe loader"
     suggestion := "Use yaml.safe_load" },
   { descriptor := sensitiveLogging
     patterns := patterns
       ["(?i)\\b(?:console\\.(?:log|info|debug|warn|error)|print|println|printf|logger\\.\\w+|logging\\.\\w+|log\\.\\w+|System\\.out\\.println|fmt\\.Print\\w*)\\s*\\(.*\\b(?:password|passwd|secret|token|api_?key|ssn|credit_?card|card_?number)\\b"]
     message := "Sensitive value is written to logs"
     suggestion := "Redact credentials before logging" }]

/-- The most specific secret of a line. -/
def secretOnLine? (file : String) (number : Nat) (line : LinePair) : Option Violation :=
  secretRules.findSome? fun r => (r.column? line).map (r.violation file number)

def secrets (u : TextUnit) (lines : List LinePair) : List Violation :=
  lines.zipIdx.filterMap fun (line, i) => secretOnLine? u.path (i + 1) line

def check (u : TextUnit) (content : String) : List Violation :=
  let lines := LinePair.ofContent content u.language
  Violation.sortByLine (secrets u lines ++ LineRule.checkAll lineRules u lines)

/-- The set of security rules. -/
def ruleSet : TextRuleSet where
  id := "security"
  category := .security
  rules := descriptors
  check := TextRuleSet.onContent check

end CodeAudit.Hazards
