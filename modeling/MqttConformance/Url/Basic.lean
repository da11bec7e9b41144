import MqttConformance.Url.Address
import MqttConformance.Url.Percent

/-!
URLs as records of their components. A URL whose path is opaque has no segments and cannot serve as
a base; every other path is empty or starts with a slash.
-/

namespace MqttConformance

/-- The host of a URL. -/
inductive Url.Host where
  | domain (name : List Char)
  | ipv4 (address : Nat)
  | ipv6 (pieces : List Nat)
  deriving DecidableEq, Repr

/-- The path of a URL, percent-encoded. -/
inductive Url.PathText where
  | opaquePath (text : List Char)
  | segments (text : List Char)
  deriving DecidableEq, Repr

/-- A URL. -/
structure Url where
  scheme : String
  userinfo : Option (List Char)
  host : Option Url.Host
  port : Option Nat
  path : Url.PathText
  query : Option (List Char)
  fragment : Option (List Char)
  deriving DecidableEq, Repr

namespace Url

/-- How the rules for URLs treat a scheme. -/
inductive SchemeKind where
  | special
  | file
  | other
  deriving DecidableEq, Repr

namespace SchemeKind

def ofScheme : String → SchemeKind
  | "http" | "https" | "ws" | "wss" | "ftp" => special
  | "file" => file
  | _ => other

/-- Whether a backslash counts as a slash. -/
def isSpecial (k : SchemeKind) : Bool := k != other

end SchemeKind

/-- The port that a scheme has without saying so. -/
def defaultPort? : String → Option Nat
  | "http" | "ws" => some 80
  | "https" | "wss" => some 443
  | "ftp" => some 21
  | _ => none

/-- Why a text is not a URL. -/
inductive Fault where
  | emptyHost
  | invalidDomain
  | invalidPort
  | invalidIpv4
  | invalidIpv6
  | invalidDomainCharacter
  | relativeWithoutBase
  deriving DecidableEq, Repr

def Fault.message : Fault → String
  | emptyHost => "empty host"
  | invalidDomain => "invalid international domain name"
  | invalidPort => "invalid port number"
  | invalidIpv4 => "invalid IPv4 address"
  | invalidIpv6 => "invalid IPv6 address"
  | invalidDomainCharacter => "invalid domain character"
  | relativeWithoutBase => "relative URL without a base"

def Host.chars : Host → List Char
  | domain name => name
  | ipv4 address => Ipv4.render address
  | ipv6 pieces => '[' :: Ipv6.render pieces ++ [']']

def PathText.chars : PathText → List Char
  | opaquePath text => text
  | segments text => text

variable (u : Url)

def kind : SchemeKind := .ofScheme u.scheme

/-- A URL that no path can be added to. -/
def cannotBeBase : Bool :=
  match u.path with
  | .opaquePath _ => true
  | .segments _ => false

/-- A URL with a host that is not empty. -/
def hasHost : Bool :=
  match u.host with
  | some (.domain name) => !name.isEmpty
  | some _ => true
  | none => false

/-- The component after its mark, if there is one. -/
def marked (mark : Char) : Option (List Char) → List Char
  | some text => mark :: text
  | none => []

/-- User, host and port behind their slashes. A path that starts with two slashes is kept apart from
a host that is not there. -/
def authorityChars : List Char :=
  match u.host with
  | some host =>
    ['/', '/'] ++ (u.userinfo.map (· ++ ['@'])).getD [] ++ host.chars ++
      marked ':' (u.port.map (Nat.toDigits 10))
  | none => if !u.cannotBeBase && ['/', '/'].isPrefixOf u.path.chars then ['/', '.'] else []

def chars : List Char :=
  u.scheme.toList ++ ':' :: u.authorityChars ++ u.path.chars ++ marked '?' u.query ++
    marked '#' u.fragment

/-- The text of a URL. -/
def render : String := String.ofList u.chars

end Url

end MqttConformance
