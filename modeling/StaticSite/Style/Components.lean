import StaticSite.Style.Css

/-!
# Styles of components

The rules for what pages are made of, the same on every site. Colours and sizes are taken from the
properties of the theme where there is one.
-/

namespace StaticSite

open Css

/-- The rules for what pages are made of. -/
def componentStyles : String := sheet
  [comment "Base",
   rule "*" ["margin:0", "padding:0", "box-sizing:border-box"],
   rule "body"
     ["font-family:var(--font-body,system-ui,sans-serif)", "font-size:var(--font-size-base,1rem)",
      "line-height:var(--line-height,1.7)", "color:var(--color-text,#1e293b)",
      "background:var(--color-bg,#fff)"],
   rule "a" ["color:var(--color-link,#2563eb)"],
   rule "img" ["max-width:100%", "height:auto"],
   rule "h1,h2,h3,h4"
     ["font-family:var(--font-heading,inherit)", "line-height:1.25", "margin:1.5rem 0 0.75rem"],
   rule "p,ul,ol" ["margin-bottom:1rem"],
   rule "ul,ol" ["padding-left:1.5rem"],
   rule "table" ["border-collapse:collapse", "width:100%"],
   rule "th,td"
     ["padding:0.625rem 0.75rem", "border-bottom:1px solid var(--color-border,#e2e8f0)",
      "text-align:left"],
   rule ".site-container" ["margin:0 auto", "padding:0 1rem"],
   rule ".logo"
     ["font-weight:800", "font-size:1.25rem", "text-decoration:none",
      "color:var(--color-primary,#0f172a)"],
   rule ".section-heading" ["font-size:clamp(1.4rem,3vw,1.9rem)"],
   rule ".section-subheading" ["color:var(--color-text-muted,#64748b)"],
   rule ".cta-button"
     ["display:inline-block", "background:var(--color-accent,#2563eb)", "color:#fff",
      "padding:0.625rem 1.25rem", "border-radius:var(--radius-md,0.5rem)", "text-decoration:none",
      "font-weight:600", "border:none", "cursor:pointer"],
   rule ".cta-button:hover" ["background:var(--color-accent-hover,#1d4ed8)"],
   "",
   comment "Trust elements",
   rule ".disclaimer,.medical-disclaimer"
     ["background:var(--color-warning-light,#fef3c7)",
      "border:1px solid var(--color-warning,#f59e0b)", "padding:1rem",
      "border-radius:var(--radius-md,0.5rem)", "margin-bottom:1.5rem", "font-size:0.9rem"],
   rule ".disclosure,.disclosure-above"
     ["background:var(--color-bg-surface,#f8fafc)", "padding:0.75rem",
      "border-radius:var(--radius-sm,0.375rem)", "margin:1rem 0", "font-size:0.875rem"],
   rule ".sources,.data-sources"
     ["margin-top:2rem", "padding-top:1rem", "border-top:1px solid var(--color-border,#e2e8f0)"],
   rule ".sources li,.data-source-item" ["margin-bottom:0.5rem", "font-size:0.875rem"],
   rule ".reviewed-by,.last-updated,.data-usage"
     ["color:var(--color-text-muted,#64748b)", "font-size:0.875rem", "margin-top:0.5rem"],
   rule ".freshness-dot"
     ["display:inline-block", "width:0.5rem", "height:0.5rem", "border-radius:50%",
      "margin-right:0.375rem", "background:currentColor"],
   rule ".print-btn"
     ["float:right", "background:none", "border:1px solid var(--color-border,#e2e8f0)",
      "padding:0.25rem 0.75rem", "border-radius:var(--radius-sm,0.375rem)", "cursor:pointer",
      "font-size:0.8rem"],
   rule ".trust-badges-row,.trust-badges"
     ["display:flex", "flex-wrap:wrap", "gap:0.75rem", "margin:1.5rem 0"],
   rule ".trust-badge"
     ["background:var(--color-bg-surface,#f8fafc)",
      "border:1px solid var(--color-border,#e2e8f0)", "border-radius:var(--radius-full,999px)",
      "padding:0.375rem 0.875rem", "font-size:0.85rem"],
   rule ".portfolio-link-blocked" ["text-decoration:none"],
   rule ".cta-doctor" ["margin-top:0.5rem", "font-weight:600"],
   "",
   comment "Calculator",
   rule ".calc-form"
     ["background:var(--color-bg-surface,#f8fafc)",
      "border:1px solid var(--color-border,#e2e8f0)", "border-radius:var(--radius-lg,0.75rem)",
      "padding:2rem", "margin:2rem 0"],
   rule ".calc-field" ["margin-bottom:1.25rem"],
   rule ".calc-field label"
     ["display:block", "font-weight:600", "margin-bottom:0.5rem", "font-size:0.9rem"],
   rule ".calc-input"
     ["width:100%", "padding:0.75rem", "border:1px solid var(--color-border-strong,#cbd5e1)",
      "border-radius:var(--radius-md,0.5rem)", "font-size:1.05rem"],
   rule ".calc-results"
     ["margin-top:1.5rem", "background:var(--color-accent-light,#eff6ff)",
      "border-radius:var(--radius-md,0.5rem)", "padding:1.25rem"],
   rule ".calc-result-item"
     ["display:flex", "justify-content:space-between", "padding:0.5rem 0",
      "border-bottom:1px solid var(--color-border,#dbeafe)"],
   rule ".calc-result-item:last-child" ["border-bottom:none"],
   rule ".calc-result-value"
     ["font-size:1.2rem", "font-weight:700", "color:var(--color-accent,#1d4ed8)"],
   rule ".calc-error" ["color:#b91c1c", "font-weight:600", "margin-bottom:1rem"],
   rule ".calc-methodology" ["margin-top:1.5rem", "font-size:0.9rem"],
   "",
   comment "Comparison, reviews, rankings",
   rule ".comparison-table-wrapper,.data-table-wrapper" ["overflow-x:auto", "margin:1.5rem 0"],
   rule ".comparison-table th,.data-table th"
     ["background:var(--color-bg-surface,#f8fafc)", "cursor:pointer", "white-space:nowrap"],
   rule (".comparison-badge,.review-badge,.ranking-badge,.pricing-badge,.hero-badge")
     ["display:inline-block", "background:var(--color-accent,#2563eb)", "color:#fff",
      "font-size:0.75rem", "font-weight:700", "padding:0.125rem 0.5rem",
      "border-radius:var(--radius-full,999px)"],
   rule ".comparison-verdict,.review-verdict"
     ["background:var(--color-bg-surface,#f8fafc)",
      "border-left:4px solid var(--color-accent,#2563eb)", "padding:1rem", "margin:1.5rem 0"],
   rule ".sort-indicator" ["opacity:0.5", "font-size:0.75rem"],
   rule ".review-cards" ["display:grid", "gap:1.5rem", "margin:2rem 0"],
   rule (".review-card,.vs-side,.pricing-card,.testimonial-card,.resource-card," ++
     ".article-card")
     ["border:1px solid var(--color-border,#e2e8f0)", "border-radius:var(--radius-lg,0.75rem)",
      "padding:1.5rem", "background:var(--color-bg,#fff)", "box-shadow:var(--shadow-sm,none)"],
   rule ".review-card-header,.vs-side-header,.ranking-header"
     ["display:flex", "align-items:center", "justify-content:space-between", "gap:0.75rem"],
   rule (".review-stars,.review-rating,.ranking-rating,.vs-rating,.testimonial-rating")
     ["color:#f59e0b"],
   rule ".pros-cons"
     ["display:grid", "grid-template-columns:1fr 1fr", "gap:1rem", "margin:1rem 0"],
   rule ".ranking-list" ["list-style:none", "padding:0"],
   rule ".ranking-item"
     ["display:flex", "gap:1rem", "padding:1.25rem 0",
      "border-bottom:1px solid var(--color-border,#e2e8f0)"],
   rule ".ranking-number"
     ["flex:0 0 2.5rem", "height:2.5rem", "border-radius:50%", "display:flex",
      "align-items:center", "justify-content:center", "font-weight:800",
      "background:var(--color-bg-surface,#f1f5f9)"],
   rule ".ranking-gold .ranking-number" ["background:#fde68a"],
   rule ".ranking-silver .ranking-number" ["background:#e2e8f0"],
   rule ".ranking-bronze .ranking-number" ["background:#fed7aa"],
   rule ".ranking-score-bar,.infographic-bar,.cost-range-bar"
     ["height:0.5rem", "background:var(--color-border,#e2e8f0)", "border-radius:999px",
      "overflow:hidden", "margin:0.5rem 0"],
   rule ".ranking-score-fill,.infographic-bar span"
     ["display:block", "height:100%", "background:var(--color-accent,#2563eb)"],
   rule ".vs-grid"
     ["display:grid", "grid-template-columns:1fr auto 1fr", "gap:1rem", "align-items:start"],
   rule ".vs-divider" ["font-weight:800", "align-self:center"],
   rule ".vs-side--winner" ["border-color:var(--color-success,#16a34a)"],
   rule ".vs-winner-badge"
     ["background:var(--color-success,#16a34a)", "color:#fff", "font-size:0.75rem",
      "padding:0.125rem 0.5rem", "border-radius:999px"],
   "",
   comment "Cost guide",
   rule ".cost-ranges" ["display:grid", "gap:1rem", "margin:1.5rem 0"],
   rule ".cost-range"
     ["display:flex", "justify-content:space-between", "padding:1rem",
      "background:var(--color-bg-surface,#f8fafc)", "border-radius:var(--radius-md,0.5rem)"],
   rule ".cost-value" ["font-size:1.25rem", "font-weight:700"],
   rule ".cost-avg .cost-value" ["color:var(--color-accent,#2563eb)"],
   rule ".cost-label"
     ["font-size:0.8rem", "color:var(--color-text-muted,#64748b)", "text-transform:uppercase"],
   rule ".factors-grid,.factors-cards"
     ["display:grid", "grid-template-columns:repeat(auto-fill,minmax(220px,1fr))", "gap:1rem"],
   rule ".factor-impact" ["font-size:0.75rem", "font-weight:700", "text-transform:uppercase"],
   "",
   comment "Lead capture",
   rule ".lead-form,.newsletter-form,.wizard-lead-form,.pdf-gate-form"
     ["display:grid", "gap:0.75rem", "margin:1.5rem 0"],
   rule (".lead-field input,.lead-field select,.newsletter-form input," ++
     ".pdf-gate-form input")
     ["width:100%", "padding:0.625rem", "border:1px solid var(--color-border-strong,#cbd5e1)",
      "border-radius:var(--radius-md,0.5rem)"],
   rule ".consent" ["font-size:0.8rem", "color:var(--color-text-muted,#64748b)"],
   rule ".lead-heading" ["margin-top:0"],
   rule ".lead-subheading" ["color:var(--color-text-muted,#64748b)"],
   "",
   comment "FAQ and checklist",
   rule ".faq-item" ["border-bottom:1px solid var(--color-border,#e2e8f0)", "padding:1rem 0"],
   rule ".faq-question" ["font-weight:700", "cursor:pointer"],
   rule ".faq-answer" ["margin-top:0.5rem"],
   rule ".checklist-list" ["list-style:none", "padding:0"],
   rule ".checklist-item"
     ["display:flex", "gap:0.75rem", "padding:0.75rem 0",
      "border-bottom:1px solid var(--color-border,#e2e8f0)"],
   rule ".checklist-number" ["font-weight:800", "color:var(--color-accent,#2563eb)"],
   rule ".checklist-progress" ["font-weight:600", "margin-bottom:1rem"],
   "",
   comment "Wizard",
   rule ".wizard-progress" ["display:flex", "gap:0.5rem", "margin-bottom:1.5rem"],
   rule ".wizard-progress-dot"
     ["flex:1", "height:0.375rem", "border-radius:999px",
      "background:var(--color-border,#e2e8f0)"],
   rule ".wizard-progress-dot.active" ["background:var(--color-accent,#2563eb)"],
   rule ".wizard-progress-label" ["font-size:0.8rem", "color:var(--color-text-muted,#64748b)"],
   rule ".wizard-field" ["margin-bottom:1rem"],
   rule ".wizard-nav" ["display:flex", "justify-content:space-between", "margin-top:1.5rem"],
   rule ".wizard-results"
     ["background:var(--color-bg-surface,#f8fafc)", "border-radius:var(--radius-lg,0.75rem)",
      "padding:1.5rem"],
   rule ".wizard-results-cards > div"
     ["background:var(--color-bg,#fff)", "border:1px solid var(--color-border,#e2e8f0)",
      "border-radius:var(--radius-md,0.5rem)", "padding:1rem", "margin-bottom:0.75rem"],
   rule ".wizard-quiz-score"
     ["font-size:2rem", "font-weight:800", "color:var(--color-accent,#2563eb)"],
   rule ".wizard-shake" ["animation:wizard-shake 0.4s"],
   nested "@keyframes wizard-shake" 
     [rule "25%" ["transform:translateX(-4px)"],
      rule "75%" ["transform:translateX(4px)"]],
   "",
   comment "Geo, map and infographic",
   rule ".geo-label,.imap-controls"
     ["display:flex", "flex-wrap:wrap", "gap:0.5rem", "align-items:center", "margin-bottom:1rem"],
   rule ".geo-block,.imap-panel,.imap-fallback"
     ["padding:1rem", "background:var(--color-bg-surface,#f8fafc)",
      "border-radius:var(--radius-md,0.5rem)"],
   rule ".imap-map-grid"
     ["display:grid", "grid-template-columns:repeat(auto-fill,minmax(3rem,1fr))", "gap:0.25rem",
      "margin:1rem 0"],
   rule ".imap-state-tile,.imap-region-buttons button,.infographic-chip"
     ["border:1px solid var(--color-border,#e2e8f0)", "background:var(--color-bg,#fff)",
      "padding:0.375rem 0.5rem", "border-radius:var(--radius-sm,0.375rem)", "cursor:pointer"],
   rule (".imap-state-tile.active,.imap-region-buttons button.active," ++
     ".infographic-chip.active")
     ["background:var(--color-accent,#2563eb)", "color:#fff"],
   rule ".infographic-chips"
     ["display:flex", "flex-wrap:wrap", "gap:0.5rem", "margin-bottom:1rem"],
   rule ".infographic-grid"
     ["display:grid", "grid-template-columns:repeat(auto-fill,minmax(240px,1fr))", "gap:1rem"],
   rule ".infographic-card"
     ["border:1px solid var(--color-border,#e2e8f0)", "border-radius:var(--radius-lg,0.75rem)",
      "padding:1.25rem"],
   rule ".infographic-meter"
     ["display:flex", "justify-content:space-between", "font-size:0.85rem"],
   rule ".stat-ring-wrap" ["position:relative", "width:80px", "height:80px"],
   rule ".stat-ring-value"
     ["position:absolute", "inset:0", "display:flex", "align-items:center",
      "justify-content:center", "font-weight:800"],
   row
     [rule ".stat-trend--up" ["color:#16a34a"],
      rule ".stat-trend--down" ["color:#dc2626"],
      rule ".stat-trend--flat" ["color:#64748b"]],
   "",
   comment "Testimonials, pricing, downloads and grids",
   rule ".testimonial-grid,.pricing-grid,.resource-grid,.latest-articles-grid"
     ["display:grid", "grid-template-columns:repeat(auto-fill,minmax(260px,1fr))", "gap:1.25rem",
      "margin:1.5rem 0"],
   rule ".testimonial-quote" ["font-style:italic", "margin:0.75rem 0"],
   rule ".testimonial-author" ["display:flex", "gap:0.75rem", "align-items:center"],
   rule ".testimonial-avatar"
     ["width:2.5rem", "height:2.5rem", "border-radius:50%",
      "background:var(--color-accent-light,#dbeafe)", "display:flex", "align-items:center",
      "justify-content:center", "font-weight:700"],
   rule ".pricing-highlighted"
     ["border-color:var(--color-accent,#2563eb)",
      "box-shadow:var(--shadow-md,0 4px 12px rgba(0,0,0,0.1))"],
   rule ".pricing-price" ["font-size:2rem", "font-weight:800"],
   rule ".pricing-period"
     ["font-size:0.9rem", "font-weight:400", "color:var(--color-text-muted,#64748b)"],
   rule ".pricing-features" ["list-style:none", "padding:0"],
   rule ".pricing-feature--excluded" ["opacity:0.5"],
   rule ".pdf-download"
     ["display:flex", "gap:1rem", "align-items:center", "padding:1.25rem",
      "border:1px dashed var(--color-border-strong,#cbd5e1)",
      "border-radius:var(--radius-lg,0.75rem)"],
   rule ".pdf-icon" ["font-size:2rem"],
   rule ".resource-card,.article-card" ["text-decoration:none", "color:inherit", "display:block"],
   rule ".article-card-img"
     ["height:160px", "background-size:cover", "background-position:center",
      "border-radius:var(--radius-md,0.5rem)", "margin-bottom:0.75rem"],
   rule ".article-card-img--placeholder" ["background:var(--color-bg-surface,#f1f5f9)"],
   rule ".embed-container iframe" ["display:block"],
   rule ".embed-placeholder" ["color:var(--color-text-muted,#64748b)", "font-style:italic"],
   rule ".author-bio"
     ["display:flex", "gap:1rem", "padding:1.25rem", "background:var(--color-bg-surface,#f8fafc)",
      "border-radius:var(--radius-lg,0.75rem)", "margin:2rem 0"],
   rule ".author-title" ["color:var(--color-text-muted,#64748b)", "font-size:0.875rem"],
   "",
   comment "Scroll CTA, progress and back-to-top",
   rule ".scroll-cta"
     ["position:fixed", "left:0", "right:0", "bottom:0", "z-index:40",
      "transform:translateY(100%)", "transition:transform 0.3s"],
   rule ".scroll-cta-visible" ["transform:none"],
   rule ".scroll-cta-inner"
     ["display:flex", "gap:1rem", "align-items:center", "justify-content:center",
      "padding:0.75rem 1rem", "background:var(--color-primary,#0f172a)", "color:#fff"],
   "",
   rule ".scroll-cta-dismiss"
     ["background:none", "border:none", "color:inherit", "font-size:1.25rem", "cursor:pointer"],
   rule ".reading-progress"
     ["position:fixed", "top:0", "left:0", "height:3px", "width:0",
      "background:var(--color-accent,#2563eb)", "z-index:60"],
   rule ".back-to-top"
     ["position:fixed", "right:1rem", "bottom:1rem", "width:2.5rem", "height:2.5rem",
      "border-radius:50%", "border:none", "background:var(--color-primary,#0f172a)", "color:#fff",
      "opacity:0", "pointer-events:none", "transition:opacity var(--transition-speed,0.2s)"],
   rule ".back-to-top.visible" ["opacity:1", "pointer-events:auto"],
   rule "section[data-animate]"
     ["opacity:0", "transform:translateY(12px)", "transition:opacity 0.5s,transform 0.5s"],
   rule "section[data-animate].is-visible" ["opacity:1", "transform:none"],
   nested "@media(prefers-reduced-motion:reduce)" 
     [rule "section[data-animate]" ["opacity:1", "transform:none", "transition:none"]],
   "",
   nested "@media(max-width:768px)" 
     [rule ".pros-cons,.vs-grid" ["grid-template-columns:1fr"],
      rule ".vs-divider" ["justify-self:center"]],
   nested "@media print" 
     [rule ("header,footer,.sidebar,.print-btn,.back-to-top,.reading-progress," ++
         ".scroll-cta-inner,script")
         ["display:none!important"]]]

end StaticSite
