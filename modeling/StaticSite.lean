import StaticSite.Block.Action
import StaticSite.Block.Context
import StaticSite.Block.Figures
import StaticSite.Block.Frame
import StaticSite.Block.Links
import StaticSite.Block.Render
import StaticSite.Block.Reviews
import StaticSite.Block.Scripts
import StaticSite.Block.Text
import StaticSite.Block.Widgets
import StaticSite.Condition.Eval
import StaticSite.Condition.Lexer
import StaticSite.Condition.Parser
import StaticSite.Condition.Script
import StaticSite.Condition.Token
import StaticSite.Condition.Value
import StaticSite.Content.Article
import StaticSite.Content.Calculator
import StaticSite.Content.Comparison
import StaticSite.Content.Cost
import StaticSite.Content.Outreach
import StaticSite.Content.Page
import StaticSite.Content.Prose
import StaticSite.Content.Site
import StaticSite.Content.Wizard
import StaticSite.Html.Body
import StaticSite.Html.Builder
import StaticSite.Html.Fragment
import StaticSite.Html.Markup
import StaticSite.Html.Reader
import StaticSite.Html.Reference
import StaticSite.Html.ReferenceNames
import StaticSite.Html.Sanitize
import StaticSite.Html.Scanner
import StaticSite.Html.Script
import StaticSite.Html.Table
import StaticSite.Html.Tree
import StaticSite.Json.Basic
import StaticSite.Json.Fields
import StaticSite.Json.Parser
import StaticSite.Json.Printer
import StaticSite.Link.HostCache
import StaticSite.Link.Injection
import StaticSite.Link.Outgoing
import StaticSite.Link.Url
import StaticSite.Markdown.Block
import StaticSite.Markdown.Emphasis
import StaticSite.Markdown.Fence
import StaticSite.Markdown.Inline
import StaticSite.Markdown.LineSyntax
import StaticSite.Markdown.LinkSyntax
import StaticSite.Markdown.Mark
import StaticSite.Markdown.Placeholder
import StaticSite.Markdown.Printer
import StaticSite.Markdown.RawHtml
import StaticSite.Markdown.Table
import StaticSite.Markdown.TagSyntax
import StaticSite.Number.Arithmetic
import StaticSite.Number.Binary64
import StaticSite.Number.Decimal
import StaticSite.Number.Notation
import StaticSite.Page.Article
import StaticSite.Page.Blocks
import StaticSite.Page.Contents
import StaticSite.Page.Embed
import StaticSite.Page.Error
import StaticSite.Page.Home
import StaticSite.Page.LinkedData
import StaticSite.Page.Shell
import StaticSite.Page.Trust
import StaticSite.Preflight.Check
import StaticSite.Preflight.Report
import StaticSite.Proofs.Block.Anchors
import StaticSite.Proofs.Block.Comments
import StaticSite.Proofs.Condition.Comparison
import StaticSite.Proofs.Condition.Composition
import StaticSite.Proofs.Condition.Cut
import StaticSite.Proofs.Condition.Grammar
import StaticSite.Proofs.Condition.Outcome
import StaticSite.Proofs.Condition.Printing
import StaticSite.Proofs.Condition.References
import StaticSite.Proofs.Content.Payloads
import StaticSite.Proofs.Failure
import StaticSite.Proofs.Html.Anchors
import StaticSite.Proofs.Html.Brackets
import StaticSite.Proofs.Html.Controls
import StaticSite.Proofs.Html.Elements
import StaticSite.Proofs.Html.Links
import StaticSite.Proofs.Html.Reading
import StaticSite.Proofs.Html.Sanitized
import StaticSite.Proofs.Html.StartTags
import StaticSite.Proofs.Html.Tags
import StaticSite.Proofs.Html.VisibleText
import StaticSite.Proofs.Json.InScript
import StaticSite.Proofs.Json.Literals
import StaticSite.Proofs.Link.Browser
import StaticSite.Proofs.Link.Disjoint
import StaticSite.Proofs.Link.Fragments
import StaticSite.Proofs.Link.HostCache
import StaticSite.Proofs.Link.Insertion
import StaticSite.Proofs.Link.Kept
import StaticSite.Proofs.Link.Leading
import StaticSite.Proofs.Link.Mentions
import StaticSite.Proofs.Link.Nesting
import StaticSite.Proofs.Link.Portfolio
import StaticSite.Proofs.Link.Titles
import StaticSite.Proofs.Link.VisibleText
import StaticSite.Proofs.Markdown.Fences
import StaticSite.Proofs.Markdown.Placeholders
import StaticSite.Proofs.Number.Order
import StaticSite.Proofs.Page.Addresses
import StaticSite.Proofs.Page.Anchors
import StaticSite.Proofs.Page.Appearance
import StaticSite.Proofs.Page.ArticleAnchors
import StaticSite.Proofs.Page.BlockLinks
import StaticSite.Proofs.Page.Canonical
import StaticSite.Proofs.Page.Contents
import StaticSite.Proofs.Page.EmbedWidget
import StaticSite.Proofs.Page.FencedSections
import StaticSite.Proofs.Page.Fragments
import StaticSite.Proofs.Page.Frame
import StaticSite.Proofs.Page.Freshness
import StaticSite.Proofs.Page.LeadEndpoint
import StaticSite.Proofs.Page.LinkedData
import StaticSite.Proofs.Page.Places
import StaticSite.Proofs.Page.Sections
import StaticSite.Proofs.Page.Words
import StaticSite.Proofs.Preflight.EmptyBlocks
import StaticSite.Proofs.Preflight.Readiness
import StaticSite.Proofs.Schema.Reader
import StaticSite.Proofs.Site.Appearance
import StaticSite.Proofs.Site.Files
import StaticSite.Proofs.Site.Fragments
import StaticSite.Proofs.Site.Linking
import StaticSite.Proofs.Site.Navigation
import StaticSite.Proofs.Site.PageNavigation
import StaticSite.Proofs.Site.Paths
import StaticSite.Proofs.Site.Published
import StaticSite.Proofs.Site.Route
import StaticSite.Proofs.Site.Selection
import StaticSite.Proofs.Site.SharedCache
import StaticSite.Proofs.Site.Sitemap
import StaticSite.Proofs.Text.Case
import StaticSite.Proofs.Text.Digits
import StaticSite.Proofs.Text.Find
import StaticSite.Proofs.Text.Lines
import StaticSite.Proofs.Text.Words
import StaticSite.Proofs.Title.Greedy
import StaticSite.Proofs.Title.Letters
import StaticSite.Proofs.Title.WordBreak
import StaticSite.Proofs.Widget.Anchors
import StaticSite.Proofs.Widget.Costs
import StaticSite.Proofs.Widget.Infographic
import StaticSite.Proofs.Wizard.Bands
import StaticSite.Proofs.Wizard.Completion
import StaticSite.Proofs.Wizard.Navigation
import StaticSite.Proofs.Wizard.Scoring
import StaticSite.Schema.Reader
import StaticSite.Service.Handle
import StaticSite.Service.Message
import StaticSite.Site.ArticleSite
import StaticSite.Site.BlockSite
import StaticSite.Site.Compilation
import StaticSite.Site.Compile
import StaticSite.Site.Hosting
import StaticSite.Site.Route
import StaticSite.Site.Selection
import StaticSite.Style.Appearance
import StaticSite.Style.Axis
import StaticSite.Style.Components
import StaticSite.Style.Css
import StaticSite.Style.Layout
import StaticSite.Style.Skin
import StaticSite.Style.Stylesheet
import StaticSite.Style.Theme
import StaticSite.Text.Blank
import StaticSite.Text.Case
import StaticSite.Text.CaseTable
import StaticSite.Text.Digit
import StaticSite.Text.Find
import StaticSite.Text.Quoted
import StaticSite.Text.WordChar
import StaticSite.Time.Timestamp
import StaticSite.Title.Hostname
import StaticSite.Title.Segmentation
import StaticSite.Widget.Calculator
import StaticSite.Widget.Checklist
import StaticSite.Widget.Comparison
import StaticSite.Widget.Costs
import StaticSite.Widget.Infographic
import StaticSite.Widget.LeadForm
import StaticSite.Widget.Regions
import StaticSite.Widget.Scripts
import StaticSite.Widget.Wizard
import StaticSite.Wizard.Controller
import StaticSite.Wizard.Mode
import StaticSite.Wizard.Navigation
import StaticSite.Wizard.Payload
import StaticSite.Wizard.Scoring
