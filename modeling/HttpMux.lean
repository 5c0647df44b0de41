import HttpMux.Address
import HttpMux.Base64
import HttpMux.Bytes
import HttpMux.Chain
import HttpMux.Connection
import HttpMux.Context
import HttpMux.Decimal.Shortest
import HttpMux.Dict
import HttpMux.Digest.Md5
import HttpMux.FormUrlencoded
import HttpMux.Handler
import HttpMux.Headers
import HttpMux.Json.Basic
import HttpMux.Json.Error
import HttpMux.Json.Number
import HttpMux.Json.Printer
import HttpMux.Json.Reader
import HttpMux.Layers.Access
import HttpMux.Layers.Caching
import HttpMux.Layers.Calls
import HttpMux.Layers.Decoding
import HttpMux.Layers.Origin
import HttpMux.Layers.Reporting
import HttpMux.Layers.Routing
import HttpMux.Log
import HttpMux.Method
import HttpMux.MethodSet
import HttpMux.Mux
import HttpMux.Pattern.Basic
import HttpMux.Pattern.Placeholder
import HttpMux.Pattern.Regular
import HttpMux.Proofs.Chain.Transparency
import HttpMux.Proofs.Connection.Pieces
import HttpMux.Proofs.Dict
import HttpMux.Proofs.Pattern.LiteralStart
import HttpMux.Proofs.Pattern.Rest
import HttpMux.Proofs.Regex.LeadingText
import HttpMux.Proofs.Request.BodyStart
import HttpMux.Proofs.Request.Head
import HttpMux.Proofs.Request.Layout
import HttpMux.Proofs.Request.Lines
import HttpMux.Proofs.Request.RoundTrip
import HttpMux.Proofs.Request.Target
import HttpMux.Proofs.Route.Precedence
import HttpMux.Proofs.Route.Program
import HttpMux.Proofs.Route.Refinement
import HttpMux.Proofs.Route.Scan
import HttpMux.Proofs.Route.Table
import HttpMux.Proofs.Route.Trie
import HttpMux.Proofs.Route.ValidMethods
import HttpMux.Proofs.Script.Correspondence
import HttpMux.Proofs.Site.Coherent
import HttpMux.Proofs.Site.Compiled
import HttpMux.Proofs.Site.Exchange
import HttpMux.Proofs.Site.Independence
import HttpMux.Proofs.Site.Mounting
import HttpMux.Proofs.Site.Outline
import HttpMux.Proofs.Site.Recorded
import HttpMux.Proofs.Site.Reference
import HttpMux.Proofs.Site.Settled
import HttpMux.Proofs.Stack.Barrier
import HttpMux.Proofs.Text.Cutting
import HttpMux.Proofs.Text.Encoding
import HttpMux.Regex.Basic
import HttpMux.Regex.CharSet
import HttpMux.Regex.LeadingText
import HttpMux.Regex.Matcher
import HttpMux.Regex.Reader
import HttpMux.Regex.Tree
import HttpMux.Request.Basic
import HttpMux.Request.Error
import HttpMux.Request.Reader
import HttpMux.Response.Basic
import HttpMux.Response.Wire
import HttpMux.Route.Engine
import HttpMux.Route.Program
import HttpMux.Route.Router
import HttpMux.Route.Table
import HttpMux.Route.Trie
import HttpMux.Script
import HttpMux.Server
import HttpMux.Site
import HttpMux.Stack
import HttpMux.Status
import HttpMux.Text.Blank
import HttpMux.Text.Case
import HttpMux.Text.Quoted
import HttpMux.Text.Span
import HttpMux.Text.Split
import HttpMux.Unicode.CaseOrbit
import HttpMux.Unicode.Printable
import HttpMux.Unicode.Ranges
import HttpMux.Unicode.WhiteSpace
import HttpMux.Unicode.Word
import HttpMux.Version
import HttpMux.Proofs.Headers
import HttpMux.Proofs.Response.Building
import HttpMux.Proofs.Response.Framing
import HttpMux.Proofs.Pattern.Filling
import HttpMux.Proofs.Route.Arrangement
import HttpMux.Proofs.Regex.Matcher
import HttpMux.Proofs.Route.Pruning
import HttpMux.Proofs.Site.Options
import HttpMux.Proofs.Layers.NoCache
import HttpMux.Proofs.Layers.Access
import HttpMux.Proofs.Route.Bounds
import HttpMux.Proofs.Site.Refused
import HttpMux.Proofs.Layers.Query
import HttpMux.Proofs.Layers.Origin
import HttpMux.Proofs.Connection.Delivery
import HttpMux.Proofs.Route.Labels
import HttpMux.Proofs.Pattern.Slices
import HttpMux.Proofs.Request.UrlPath
