import CurlRequest.Main
import CurlRequest.Proofs.Binary64.Rounding
import CurlRequest.Proofs.Binary64.Shortest
import CurlRequest.Proofs.Curl.Accepted
import CurlRequest.Proofs.Curl.Conversion
import CurlRequest.Proofs.Curl.Description
import CurlRequest.Proofs.Curl.FirstBroken
import CurlRequest.Proofs.Curl.Masking
import CurlRequest.Proofs.Curl.Rendering
import CurlRequest.Proofs.Curl.Rules
import CurlRequest.Proofs.Dictionary
import CurlRequest.Proofs.Json.Digits
import CurlRequest.Proofs.Json.Writable
import CurlRequest.Proofs.Json.Grammar
import CurlRequest.Proofs.Json.Nesting
import CurlRequest.Proofs.Json.NumberText
import CurlRequest.Proofs.Json.Numbers
import CurlRequest.Proofs.Json.ReaderSteps
import CurlRequest.Proofs.Json.Reading
import CurlRequest.Proofs.Json.Strings
import CurlRequest.Proofs.Json.View
import CurlRequest.Proofs.Json.Writing
import CurlRequest.Proofs.Shell.Reading
import CurlRequest.Proofs.Text.Utf8
import CurlRequest.Proofs.File.Tree
import CurlRequest.Proofs.Settings.UserFile
import CurlRequest.Proofs.Settings.Update
import CurlRequest.Proofs.Settings.EnvFile
import CurlRequest.Proofs.CommandLine.Session
import CurlRequest.Proofs.CommandLine.Configuration
import CurlRequest.Proofs.CommandLine.Agreement
import CurlRequest.Proofs.CommandLine.Secrecy
import CurlRequest.Proofs.Terminal.Content
import CurlRequest.Proofs.Json.Refusal
import CurlRequest.Proofs.CommandLine.Reporting
import CurlRequest.Proofs.Curl.Serialization
import CurlRequest.Proofs.Curl.Script
import CurlRequest.Proofs.CommandLine.Effects
import CurlRequest.Proofs.Text.Lowering
import CurlRequest.Proofs.Curl.Sensitivity
import CurlRequest.Proofs.Shell.Argument
import CurlRequest.Proofs.Curl.Hiding
import CurlRequest.Proofs.File.Replacing
import CurlRequest.Proofs.Curl.Encodable
import CurlRequest.Proofs.Curl.Saving
import CurlRequest.Proofs.Curl.Method
import CurlRequest.Proofs.Json.Layout
import CurlRequest.Proofs.Curl.Export
import CurlRequest.Proofs.Text.WellFormed
import CurlRequest.Proofs.Curl.Octets
import CurlRequest.Proofs.Json.LineEnds
import CurlRequest.Proofs.Curl.LineEnds
import CurlRequest.Proofs.Curl.FlagSets
import CurlRequest.Proofs.Curl.LastValues
import CurlRequest.Proofs.Settings.Names
import CurlRequest.Proofs.Terminal.Markup
import CurlRequest.Proofs.CommandLine.Defaults
import CurlRequest.Proofs.Curl.Mapping
import CurlRequest.Proofs.Curl.ClosedScript
