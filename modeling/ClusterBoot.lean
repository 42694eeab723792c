import ClusterBoot.Artefacts
import ClusterBoot.Build
import ClusterBoot.Cluster
import ClusterBoot.ClusterDefinition
import ClusterBoot.Cni
import ClusterBoot.CommandLine
import ClusterBoot.Definition
import ClusterBoot.Download
import ClusterBoot.EnvironmentFile
import ClusterBoot.Failure
import ClusterBoot.FileTree
import ClusterBoot.Http
import ClusterBoot.InstallScript
import ClusterBoot.Layout
import ClusterBoot.Main
import ClusterBoot.Options
import ClusterBoot.Path
import ClusterBoot.Platform
import ClusterBoot.Program
import ClusterBoot.Rehearsal
import ClusterBoot.ReleaseSources
import ClusterBoot.RoleDocument
import ClusterBoot.Selinux
import ClusterBoot.Setting
import ClusterBoot.Settings
import ClusterBoot.Show
import ClusterBoot.Text.Alphanumeric
import ClusterBoot.Text.Blank
import ClusterBoot.Text.Hex
import ClusterBoot.Text.LetterCase
import ClusterBoot.Text.Lines
import ClusterBoot.Text.Numeral
import ClusterBoot.Text.Pieces
import ClusterBoot.Text.Quoted
import ClusterBoot.Text.Unprintable
import ClusterBoot.TlsSan
import ClusterBoot.Token
import ClusterBoot.Toml.Document
import ClusterBoot.Toml.Quoted
import ClusterBoot.Toml.Reader
import ClusterBoot.Toml.Scalar
import ClusterBoot.Toml.Value
import ClusterBoot.Trouble
import ClusterBoot.Url
import ClusterBoot.VirtualAddress
import ClusterBoot.Warning
import ClusterBoot.World
import ClusterBoot.Yaml.Block
import ClusterBoot.Yaml.Cursor
import ClusterBoot.Yaml.Emit
import ClusterBoot.Yaml.Folded
import ClusterBoot.Yaml.Lexer
import ClusterBoot.Yaml.Scalar
import ClusterBoot.Yaml.Stream
import ClusterBoot.Yaml.Tag
import ClusterBoot.Yaml.Token
import ClusterBoot.Yaml.Value
import ClusterBoot.Proofs.Actions
import ClusterBoot.Proofs.ApiAddresses
import ClusterBoot.Proofs.ArtefactRuns
import ClusterBoot.Proofs.ArtefactUrls
import ClusterBoot.Proofs.BuildEffects
import ClusterBoot.Proofs.BuildOutput
import ClusterBoot.Proofs.Derivation
import ClusterBoot.Proofs.DerivationOutcome
import ClusterBoot.Proofs.DerivedTexts
import ClusterBoot.Proofs.ManifestRendering
import ClusterBoot.Proofs.NameRuns
import ClusterBoot.Proofs.PluginSelections
import ClusterBoot.Proofs.Preview
import ClusterBoot.Proofs.Readings
import ClusterBoot.Proofs.Rebuilds
import ClusterBoot.Proofs.Rederivation
import ClusterBoot.Proofs.Representation
import ClusterBoot.Proofs.RoundTrip
import ClusterBoot.Proofs.ScriptRendering
import ClusterBoot.Proofs.Secrecy
import ClusterBoot.Proofs.ServerNames
import ClusterBoot.Proofs.SingleServers
import ClusterBoot.Proofs.TokenDigits
import ClusterBoot.Proofs.VariableReadings
import ClusterBoot.Proofs.WholeDownloads
import ClusterBoot.Proofs.WrittenForms
