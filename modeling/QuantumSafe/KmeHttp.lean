import QuantumSafe.TopologyContract

set_option autoImplicit false

/- `lab/kme_http.py`: the curl commands of the lab scripts for the KME API. -/
namespace QuantumSafe.KmeHttp

open PyText

def kmeCurlConnectTimeoutSec : Nat := 5
def kmeCurlMaxTimeSec : Nat := 15
def dockerExecTimeoutSec : Nat := 20

def kmeCurlFlags : List Text :=
  [text "--connect-timeout", natText kmeCurlConnectTimeoutSec, text "--max-time",
    natText kmeCurlMaxTimeSec]

def kmeTlsFlags : List Text := [text "--tlsv1.3", text "--tls-max", text "1.3"]

def kmeCaCertContainer : Text := text "/certs/ca.crt.pem"

def ceosMgmtNetns : Text := text "ns-MGMT"
def ceosKmeCaCert : Text := text "/mnt/flash/kme-ca.crt.pem"
def ceosKmeSaeCert : Text := text "/mnt/flash/kme-sae.crt.pem"
def ceosKmeSaeKey : Text := text "/mnt/flash/kme-sae.key.pem"
def ceosKmeSaeBCert : Text := text "/mnt/flash/kme-sae-b.crt.pem"
def ceosKmeSaeBKey : Text := text "/mnt/flash/kme-sae-b.key.pem"

def kmeCurlTlsFlags (strict : Bool) : List Text :=
  if strict then text "-sf" :: kmeTlsFlags else [text "-sk"]

/-- The arguments of `kme_curl_argv`. -/
structure Curl where
  url : Text
  cert : Text
  key : Text
  caCert : Text := kmeCaCertContainer
  strict : Bool := true
  method : Text := text "GET"
  body : Option Text := none

def kmeCurlArgv (curl : Curl) : List Text :=
  text "curl" :: kmeCurlTlsFlags curl.strict ++ kmeCurlFlags ++
    (if curl.strict then [text "--cacert", curl.caCert] else []) ++
    [text "--cert", curl.cert, text "--key", curl.key] ++
    (if curl.method ≠ text "GET" then [text "-X", curl.method] else []) ++
    (match curl.body with
      | some body => [text "-H", text "Content-Type: application/json", text "-d", body]
      | none => []) ++
    [curl.url]

/-- `["docker", "exec", container, *argv]` -/
def dockerExecArgv (container : Text) (argv : List Text) : List Text :=
  text "docker" :: text "exec" :: container :: argv

def ceosKmeCurlExecArgv (container : Text) (curl : Curl) : List Text :=
  dockerExecArgv container
    (text "ip" :: text "netns" :: text "exec" :: ceosMgmtNetns :: kmeCurlArgv { curl with strict := true })

/-- What a curl starts with that speaks TLS 1.3 only and verifies the chain of the server
against a CA. -/
def verifying (caCert : Text) : List Text :=
  text "curl" :: text "-sf" :: kmeTlsFlags ++ kmeCurlFlags ++ [text "--cacert", caCert]

/-- The other options that take a value: the certificate and key of the client, and what is sent. -/
def clientOptions : List Text := [text "--cert", text "--key", text "-X", text "-H", text "-d"]

def Curl.options (curl : Curl) : List (Text × Text) :=
  [(text "--cert", curl.cert), (text "--key", curl.key)] ++
    (if curl.method ≠ text "GET" then [(text "-X", curl.method)] else []) ++
    (match curl.body with
      | some body => [(text "-H", text "Content-Type: application/json"), (text "-d", body)]
      | none => [])

/-- Options with their values, and a URL. -/
def withUrl (options : List (Text × Text)) (url : Text) : List Text :=
  (options.flatMap fun option => [option.1, option.2]) ++ [url]

theorem options_client (curl : Curl) : ∀ option ∈ curl.options, option.1 ∈ clientOptions := by
  obtain ⟨url, cert, key, caCert, strict, method, body⟩ := curl
  cases body <;> by_cases get : method = text "GET" <;> simp [Curl.options, get, clientOptions]

theorem kmeCurlArgv_strict {curl : Curl} (strict : curl.strict = true) :
    kmeCurlArgv curl = verifying curl.caCert ++ withUrl curl.options curl.url := by
  obtain ⟨url, cert, key, caCert, _, method, body⟩ := curl
  obtain rfl : _ = true := strict
  cases body <;> by_cases get : method = text "GET" <;>
    simp [kmeCurlArgv, kmeCurlTlsFlags, verifying, withUrl, Curl.options, get]

end QuantumSafe.KmeHttp
